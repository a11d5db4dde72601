import HttpSuite.Proofs.Document
import HttpSuite.Proofs.Literal

/-!
# The name of the source

The name of a source stands in the first line of a file and nowhere else (`text_named`), and it stands
there as it is, without quotes or escapes. That line is meant to be a comment: a class opens with a
line comment, and a module with a text in triple quotes. Whether the name stays in there depends on
the name:

* **The end of the comment.** The comment ends at the first line feed or at the first three quotes
  behind its opening. If the name holds these, then what follows them in the name is code
  (`after?_append_eq_iff`).
* **Line ends in a class.** A line comment also ends at a carriage return and at a Unicode escape of a
  line end, and a malformed escape is an error even in a comment (`isLineComment_headline_iff`).
-/

namespace HttpSuite.Emit

open Text (hexNumber? hexValue?)

/-! ## The first occurrence of a mark -/

/-- What follows the first occurrence of a mark in a text, if there is one. -/
def after? (mark : List Char) : List Char → Option (List Char)
  | [] => none
  | c :: cs =>
    if mark <+: c :: cs then some ((c :: cs).drop mark.length) else after? mark cs

section Occurrence

variable {mark front back cs rest : List Char}

theorem after?_eq_none_iff (ne : mark ≠ []) : after? mark cs = none ↔ ¬ mark <:+: cs := by
  induction cs with
  | nil => simp [after?, ne]
  | cons c cs ih =>
    rw [after?, List.infix_cons_iff, not_or]
    split
    · rename_i starts
      simp [starts]
    · rename_i starts
      simp [starts, ih]

/-- What follows a mark is shorter than the text. -/
theorem length_lt_of_after? (ne : mark ≠ []) (h : after? mark cs = some rest) :
    rest.length < cs.length := by
  induction cs with
  | nil => cases h
  | cons c cs ih =>
    rw [after?] at h
    split at h
    · obtain rfl := Option.some.inj h
      have pos := List.length_pos_of_ne_nil ne
      rw [List.length_drop, List.length_cons]
      omega
    · exact Nat.lt_succ_of_lt (ih h)

/-- No mark starts among characters other than its first one. -/
theorem after?_append_of_not_mem {m : Char} (h : m ∉ front) :
    after? (m :: mark) (front ++ cs) = after? (m :: mark) cs := by
  induction front with
  | nil => rfl
  | cons c front ih =>
    obtain ⟨ne, others⟩ := not_or.1 (List.mem_cons.not.1 h)
    have starts : ¬ m :: mark <+: c :: (front ++ cs) := by
      intro starts
      exact ne (List.cons_prefix_cons.1 starts).1
    rw [List.cons_append, after?, if_neg starts, ih others]

/-- Nor does one start in a line that holds no such character. -/
theorem after?_line {m : Char} {line : String} (h : m ∉ line.toList) (ne : m ≠ '\n') :
    after? (m :: mark) (line.toList ++ '\n' :: cs) = after? (m :: mark) cs := by
  have rest : m ∉ ['\n'] := List.mem_singleton.not.2 ne
  rw [after?_append_of_not_mem h]
  exact after?_append_of_not_mem rest

/-- A mark cannot reach into a text that starts with a character which it does not hold. -/
theorem prefix_append_iff {d : Char} (first : back.head? = some d) (other : d ∉ mark) :
    mark <+: front ++ back ↔ mark <+: front := by
  constructor
  · rintro ⟨rest, split⟩
    rcases List.append_eq_append_iff.1 split with ⟨middle, rfl, -⟩ | ⟨middle, rfl, tail⟩
    · exact List.prefix_append mark middle
    · cases middle with
      | nil => exact ⟨[], by rw [List.append_nil, List.append_nil]⟩
      | cons c middle =>
        rw [tail, List.cons_append, List.head?_cons] at first
        obtain rfl := Option.some.inj first
        exact absurd (List.mem_append_right front List.mem_cons_self) other
  · intro starts
    exact starts.trans (List.prefix_append front back)

theorem after?_append_of_some {d : Char} (first : back.head? = some d) (other : d ∉ mark)
    (h : after? mark cs = some rest) : after? mark (cs ++ back) = some (rest ++ back) := by
  induction cs with
  | nil => cases h
  | cons c cs ih =>
    rw [after?] at h
    rw [List.cons_append, after?, ← List.cons_append]
    simp only [prefix_append_iff first other]
    split at h
    · rename_i starts
      rw [if_pos starts, List.drop_append_of_le_length starts.length_le, Option.some.inj h]
    · rename_i starts
      rw [if_neg starts, ih h]

theorem after?_append_of_none {d : Char} (first : back.head? = some d) (other : d ∉ mark)
    (h : after? mark cs = none) : after? mark (cs ++ back) = after? mark back := by
  induction cs with
  | nil => rfl
  | cons c cs ih =>
    rw [after?] at h
    rw [List.cons_append, after?, ← List.cons_append]
    simp only [prefix_append_iff first other]
    split at h
    · cases h
    · rename_i starts
      rw [if_neg starts, ih h]

/-- Two texts with the same continuation are the same behind the first mark exactly if they are so
without the continuation. -/
theorem after?_append_eq_iff {d : Char} (first : back.head? = some d) (other : d ∉ mark)
    (ne : mark ≠ []) (found : after? mark back = some rest) (xs ys : List Char) :
    after? mark (xs ++ back) = after? mark (ys ++ back) ↔ after? mark xs = after? mark ys := by
  have shorter := length_lt_of_after? ne found
  -- A mark in one of the texts leaves the whole continuation behind it, no mark in it leaves less.
  have differ : ∀ tail : List Char, tail ++ back ≠ rest := by
    intro tail same
    have length := congrArg List.length same
    rw [List.length_append] at length
    omega
  cases hx : after? mark xs with
  | none =>
    rw [after?_append_of_none first other hx, found]
    cases hy : after? mark ys with
    | none => rw [after?_append_of_none first other hy, found]; simp
    | some tail => rw [after?_append_of_some first other hy]; simp [(differ tail).symm]
  | some tail =>
    rw [after?_append_of_some first other hx]
    cases hy : after? mark ys with
    | none => rw [after?_append_of_none first other hy, found]; simp [differ tail]
    | some tail' => rw [after?_append_of_some first other hy]; simp

end Occurrence

/-! ## The first line -/

/-- The words in front of the source's name. -/
def beforeName : Target → String
  | .python => "\"\"\"HTTP tests generated by testlang from "
  | .java => "// HTTP tests generated by testlang from "

/-- The first line of a file whose source has a name. -/
def headline (target : Target) (name : String) : String :=
  beforeName target ++ name ++ behindName target

theorem headline_eq (target : Target) {name : String} (ne : name ≠ "") :
    title target ++ origin (some name) ++ behindName target = headline target name := by
  rw [origin, if_neg (by simpa using ne), ← String.append_assoc]
  cases target <;> rfl

/-- The name of the source stands in the first line and nowhere else. -/
theorem text_named (target : Target) (settings : Settings) (outputName : Option RawText)
    (program : Program) {name : String} (ne : name ≠ "") :
    text target settings (some name) outputName program =
      (laterLines target settings outputName program).map fun lines =>
        String.ofList (written (headline target name :: lines)) := by
  rw [text_eq_laterLines, headline_eq target ne]

/-! ## Line comments of a class -/

/-- The number of the four hexadecimal digits at the front of a text. -/
def codeUnit? (cs : List Char) : Option Nat :=
  if cs.length < 4 then none else hexNumber? (cs.take 4)

/-- The input of a Java compiler, by the numbers of its characters. A backslash that has an even
number of backslashes right before it and a `u` behind it starts a Unicode escape: any number of
further `u` and four digits, and the number that these make up is read in its place. -/
def javaInput? (before : Nat) : List Char → Option (List Nat)
  | [] => some []
  | c :: cs =>
    if c = '\\' ∧ before % 2 = 0 ∧ cs.head? = some 'u' then do
      let number ← codeUnit? (cs.dropWhile (· == 'u'))
      let rest ← javaInput? 0 ((cs.dropWhile (· == 'u')).drop 4)
      return number :: rest
    else (javaInput? (if c = '\\' then before + 1 else 0) cs).map (c.toNat :: ·)
termination_by cs => cs.length
decreasing_by
  · have shorter := (List.dropWhile_sublist (l := cs) (· == 'u')).length_le
    rw [List.length_drop, List.length_cons]
    omega
  · exact Nat.lt_succ_self _

/-- A text that Java can read and in which it reads no line end. -/
def KeepsLine (cs : List Char) : Prop :=
  ∃ input, javaInput? 0 cs = some input ∧ 10 ∉ input ∧ 13 ∉ input

/-- A text that is one line comment, up to the line end behind it. -/
def IsLineComment (line : List Char) : Prop :=
  ['/', '/'] <+: line ∧ KeepsLine line

section JavaInput

variable {cs back : List Char} {before : Nat}

theorem javaInput?_of_ne {c : Char} (backslash : c ≠ '\\') :
    javaInput? before (c :: cs) = (javaInput? 0 cs).map (c.toNat :: ·) := by
  rw [javaInput?, if_neg (fun h => backslash h.1), if_neg backslash]

/-- Text without backslashes is read as it is. -/
theorem javaInput?_append_of_not_mem {front : List Char} (h : '\\' ∉ front) :
    javaInput? 0 (front ++ cs) = (javaInput? 0 cs).map (front.map Char.toNat ++ ·) := by
  induction front with
  | nil => exact Option.map_id'.symm
  | cons c front ih =>
    obtain ⟨ne, others⟩ := not_or.1 (List.mem_cons.not.1 h)
    rw [List.cons_append, javaInput?_of_ne (Ne.symm ne), ih others, Option.map_map]
    rfl

/-- A number is read from hexadecimal digits alone. -/
theorem hexValue?_isSome_of_mem {digits : List Char} {value number : Nat}
    (h : digits.foldlM (fun value digit => (hexValue? digit).map (16 * value + ·)) value = some number)
    {digit : Char} (mem : digit ∈ digits) : (hexValue? digit).isSome := by
  induction digits generalizing value with
  | nil => cases mem
  | cons first digits ih =>
    rw [List.foldlM_cons] at h
    obtain ⟨next, head, tail⟩ := Option.bind_eq_some_iff.1 h
    obtain ⟨digitValue, known, -⟩ := Option.map_eq_some_iff.1 head
    rcases List.mem_cons.1 mem with rfl | mem
    · exact Option.isSome_iff_exists.2 ⟨digitValue, known⟩
    · exact ih tail mem

/-- The digits of an escape cannot reach into a text that starts with no digit. -/
theorem codeUnit?_append {d : Char} (first : back.head? = some d) (digit : hexValue? d = none) :
    codeUnit? (cs ++ back) = codeUnit? cs := by
  by_cases enough : cs.length < 4
  · rw [codeUnit?, codeUnit?, if_pos enough]
    split
    · rfl
    · -- There are four characters only with the first one of `back`, which is no digit.
      obtain ⟨tail, rfl⟩ := List.head?_eq_some_iff.1 first
      refine Option.eq_none_iff_forall_ne_some.2 fun number read => ?_
      have mem : d ∈ (cs ++ d :: tail).take 4 := by
        obtain ⟨room, hroom⟩ := Nat.exists_eq_add_of_lt enough
        rw [List.take_append, show 4 - cs.length = room + 1 by omega, List.take_succ_cons]
        exact List.mem_append_right _ List.mem_cons_self
      have known := hexValue?_isSome_of_mem read mem
      rw [digit] at known
      cases known
  · rw [codeUnit?, codeUnit?, if_neg enough, if_neg (by rw [List.length_append]; omega),
      List.take_append_of_le_length (Nat.le_of_not_lt enough)]

theorem dropWhile_u_append {d : Char} (first : back.head? = some d) (mark : d ≠ 'u') :
    (cs ++ back).dropWhile (· == 'u') = cs.dropWhile (· == 'u') ++ back := by
  induction cs with
  | nil =>
    obtain ⟨tail, rfl⟩ := List.head?_eq_some_iff.1 first
    exact List.dropWhile_cons_of_neg (by simpa using mark)
  | cons c cs ih =>
    by_cases same : c = 'u'
    · rw [List.cons_append, List.dropWhile_cons_of_pos (by simpa using same), ih,
        List.dropWhile_cons_of_pos (by simpa using same)]
    · rw [List.cons_append, List.dropWhile_cons_of_neg (by simpa using same),
        List.dropWhile_cons_of_neg (by simpa using same), List.cons_append]

/-- An escape cannot reach into a text that starts with no `u` and no digit. -/
theorem javaInput?_append {d : Char} (first : back.head? = some d) (mark : d ≠ 'u')
    (digit : hexValue? d = none) (plain : '\\' ∉ back) :
    javaInput? before (cs ++ back) = (javaInput? before cs).map (· ++ back.map Char.toNat) := by
  obtain ⟨tail, rfl⟩ := List.head?_eq_some_iff.1 first
  have back_read : javaInput? 0 tail = some (tail.map Char.toNat) := by
    have others := (not_or.1 (List.mem_cons.not.1 plain)).2
    have read := @javaInput?_append_of_not_mem [] tail others
    rwa [List.append_nil, javaInput?, Option.map_some, List.append_nil] at read
  -- The cases are those of the reading: the end of the text, an escape, any other character.
  induction before, cs using javaInput?.induct with
  | case1 before =>
    have backslash : d ≠ '\\' := by
      rintro rfl
      exact plain List.mem_cons_self
    rw [List.nil_append, javaInput?_of_ne backslash, back_read, javaInput?]
    rfl
  | case2 before c cs starts ih =>
    obtain ⟨rfl, even, marked⟩ := starts
    have marked' : (cs ++ d :: tail).head? = some 'u' := by
      rw [List.head?_append, marked, Option.some_or]
    rw [List.cons_append, javaInput?, if_pos ⟨rfl, even, marked'⟩, javaInput?,
      if_pos ⟨rfl, even, marked⟩, dropWhile_u_append first mark, codeUnit?_append first digit]
    cases read : codeUnit? (cs.dropWhile (· == 'u')) with
    | none => rfl
    | some number =>
      have enough : 4 ≤ (cs.dropWhile (· == 'u')).length := by
        by_contra! short
        rw [codeUnit?, if_pos short] at read
        cases read
      rw [List.drop_append_of_le_length enough, Option.bind_eq_bind, Option.bind_some, ih]
      cases javaInput? 0 ((cs.dropWhile (· == 'u')).drop 4) <;> rfl
  | case3 before c cs starts ih =>
    have starts' : ¬ (c = '\\' ∧ before % 2 = 0 ∧ (cs ++ d :: tail).head? = some 'u') := by
      rintro ⟨rfl, even, marked⟩
      cases cs with
      | nil => exact mark (Option.some.inj marked)
      | cons next cs => exact starts ⟨rfl, even, marked⟩
    rw [dite_eq_ite] at ih
    rw [List.cons_append, javaInput?, if_neg starts', javaInput?, if_neg starts, ih, Option.map_map,
      Option.map_map]
    rfl

/-- A line feed that stands in a text is read. -/
theorem newline_not_mem_of_javaInput? {input : List Nat} (h : javaInput? before cs = some input)
    (read : 10 ∉ input) : '\n' ∉ cs := by
  induction before, cs using javaInput?.induct generalizing input with
  | case1 => exact List.not_mem_nil
  | case2 before c cs starts ih =>
    rw [javaInput?, if_pos starts] at h
    obtain ⟨number, known, h⟩ := Option.bind_eq_some_iff.1 h
    obtain ⟨rest, behind, h⟩ := Option.bind_eq_some_iff.1 h
    obtain rfl := Option.some.inj h
    obtain ⟨rfl, -, -⟩ := starts
    have later := ih behind fun mem => read (List.mem_cons_of_mem number mem)
    -- The escape itself holds no line feed: it is made of `u` and of digits.
    have digits : '\n' ∉ (cs.dropWhile (· == 'u')).take 4 := by
      rw [codeUnit?] at known
      split at known
      · cases known
      · intro mem
        exact absurd (hexValue?_isSome_of_mem known mem) (by decide)
    have marks : '\n' ∉ cs.takeWhile (· == 'u') := fun mem =>
      absurd (List.mem_takeWhile_imp mem) (by decide)
    intro mem
    have mem : '\n' ∈ cs := (List.mem_cons.1 mem).resolve_left (by decide)
    rw [← List.takeWhile_append_dropWhile (p := (· == 'u')) (l := cs),
      ← List.take_append_drop 4 (cs.dropWhile (· == 'u'))] at mem
    rcases List.mem_append.1 mem with mem | mem
    · exact marks mem
    · exact (List.mem_append.1 mem).elim digits later
  | case3 before c cs starts ih =>
    rw [javaInput?, if_neg starts] at h
    obtain ⟨rest, behind, rfl⟩ := Option.map_eq_some_iff.1 h
    obtain ⟨first, others⟩ := not_or.1 (List.mem_cons.not.1 read)
    intro mem
    rcases List.mem_cons.1 mem with rfl | mem
    · exact first rfl
    · rw [← dite_eq_ite] at behind
      exact ih behind others mem

end JavaInput

/-- The words around the name are read as they are, whatever the name ends with. -/
theorem javaInput?_headline (name : String) :
    javaInput? 0 (headline .java name).toList =
      (javaInput? 0 name.toList).map fun input =>
        (beforeName .java).toList.map Char.toNat ++
          (input ++ (behindName .java).toList.map Char.toNat) := by
  have first : (behindName .java).toList.head? = some '.' := by decide
  rw [headline, String.append_assoc, String.toList_append, String.toList_append,
    javaInput?_append_of_not_mem (by simp [beforeName]),
    javaInput?_append first (by decide) (by decide) (by simp [behindName]), Option.map_map]
  rfl

/-- The first line of a class is one line comment exactly if the name holds no line end. -/
theorem isLineComment_headline_iff (name : String) :
    IsLineComment (headline .java name).toList ↔ KeepsLine name.toList := by
  have words : ∀ n ∈ [10, 13], n ∉ (beforeName .java).toList.map Char.toNat ∧
      n ∉ (behindName .java).toList.map Char.toNat := by simp [beforeName, behindName]
  constructor
  · rintro ⟨-, input, read, lineFeed, carriageReturn⟩
    rw [javaInput?_headline] at read
    obtain ⟨own, known, rfl⟩ := Option.map_eq_some_iff.1 read
    have inner : ∀ n ∈ own, n ∈ (beforeName .java).toList.map Char.toNat ++
        (own ++ (behindName .java).toList.map Char.toNat) := fun n mem =>
      List.mem_append_right _ (List.mem_append_left _ mem)
    exact ⟨own, known, lineFeed ∘ inner 10, carriageReturn ∘ inner 13⟩
  · rintro ⟨own, read, lineFeed, carriageReturn⟩
    have comment : ['/', '/'] <+: (headline .java name).toList := by
      rw [headline, String.append_assoc, String.toList_append]
      exact (show ['/', '/'] <+: (beforeName .java).toList by simp [beforeName]).trans
        (List.prefix_append _ _)
    refine ⟨comment, _, by rw [javaInput?_headline, read]; rfl, ?_, ?_⟩
    · simpa [words 10] using lineFeed
    · simpa [words 13] using carriageReturn

/-! ## What is left without the comment -/

/-- What the comment at the front of a file starts with. -/
def opening : Target → List Char
  | .python => ['"', '"', '"']
  | .java => ['/', '/']

/-- What ends the comment at the front of a file. -/
def closing : Target → List Char
  | .python => ['"', '"', '"']
  | .java => ['\n']

/-- What is left of a file without the comment at its front, which ends with the first closing mark
behind its opening. -/
def withoutComment? (target : Target) (file : String) : Option (List Char) :=
  if opening target <+: file.toList then
    after? (closing target) (file.toList.drop (opening target).length)
  else none

/-- The first line of a file. -/
def firstLine (file : String) : List Char :=
  file.toList.takeWhile (· != '\n')

theorem after?_self {mark : List Char} (ne : mark ≠ []) (rest : List Char) :
    after? mark (mark ++ rest) = some rest := by
  obtain ⟨m, others, rfl⟩ := List.exists_cons_of_ne_nil ne
  have starts : m :: others <+: m :: (others ++ rest) := List.prefix_append (m :: others) rest
  rw [List.cons_append, after?, if_pos starts, ← List.cons_append, List.drop_left]

/-- What stands behind the name, in the first line and after it. -/
def behind (target : Target) (lines : List String) : List Char :=
  (behindName target).toList ++ '\n' :: written lines

/-- No closing mark stands in front of the name. -/
theorem withoutComment?_headline (target : Target) (name : String) (lines : List String) :
    withoutComment? target (String.ofList (written (headline target name :: lines))) =
      after? (closing target) (name.toList ++ behind target lines) := by
  have text : written (headline target name :: lines) =
      (beforeName target).toList ++ (name.toList ++ behind target lines) := by
    simp [headline, behind]
  rw [withoutComment?, String.toList_ofList, text]
  cases target with
  | python =>
    have split : (beforeName .python).toList =
        opening .python ++ "HTTP tests generated by testlang from ".toList := by
      simp [beforeName, opening]
    rw [split, List.append_assoc, if_pos (List.prefix_append _ _), List.drop_left]
    exact after?_append_of_not_mem (by simp)
  | java =>
    have split : (beforeName .java).toList =
        opening .java ++ " HTTP tests generated by testlang from ".toList := by
      simp [beforeName, opening]
    rw [split, List.append_assoc, if_pos (List.prefix_append _ _), List.drop_left]
    exact after?_append_of_not_mem (by simp)

/-- The comment ends behind the name if it does not end in it. -/
theorem exists_after_behind {target : Target} {settings : Settings} {outputName : Option RawText}
    {program : Program} {lines : List String}
    (h : laterLines target settings outputName program = .ok lines) :
    ∃ rest, after? (closing target) (behind target lines) = some rest := by
  cases target with
  | python =>
    have made : lines =
        documentLines .python settings program (PythonModule.header settings none).tail := by
      rw [laterLines] at h
      split at h
      · exact (Except.ok.inj h).symm
      · cases h
    have split : documentLines .python settings program (PythonModule.header settings none).tail =
        "" :: "Do not edit by hand; regenerate with `testlang compile`." :: "\"\"\"" ::
          documentLines .python settings program ((PythonModule.header settings none).drop 4) := rfl
    refine ⟨'\n' :: written (documentLines .python settings program
      ((PythonModule.header settings none).drop 4)), ?_⟩
    rw [made, behind, split, closing, written_cons, written_cons, written_cons,
      after?_line (by simp [behindName]) (by decide), after?_line (by simp) (by decide),
      after?_line (by simp) (by decide)]
    exact after?_self (List.cons_ne_nil _ _) _
  | java =>
    refine ⟨written lines, ?_⟩
    exact (after?_append_of_not_mem (by simp [behindName])).trans
      (after?_self (List.cons_ne_nil _ _) (written lines))

theorem firstLine_written {line : String} (h : '\n' ∉ line.toList) (lines : List String) :
    firstLine (String.ofList (written (line :: lines))) = line.toList := by
  have inside : ∀ c ∈ line.toList, (c != '\n') = true := by
    intro c mem
    exact bne_iff_ne.2 fun same => h (same ▸ mem)
  rw [firstLine, String.toList_ofList, written_cons, List.takeWhile_append_of_pos inside,
    List.takeWhile_cons_of_neg (by decide), List.append_nil]

/-- The first line of a class is the whole comment exactly if the name holds no line end. -/
theorem firstLine_isLineComment_iff (name : String) (lines : List String) :
    let file := String.ofList (written (headline .java name :: lines))
    (firstLine file = (headline .java name).toList ∧ IsLineComment (firstLine file)) ↔
      KeepsLine name.toList := by
  intro file
  rw [← isLineComment_headline_iff]
  constructor
  · rintro ⟨whole, comment⟩
    rwa [whole] at comment
  · intro comment
    have ⟨_, input, read, lineFeed, _⟩ := comment
    have whole := firstLine_written (newline_not_mem_of_javaInput? read lineFeed) lines
    exact ⟨whole, whole ▸ comment⟩

/-- **The name of the source.** Whatever the source is called, the name stands in the first line of
the file, and the rest of the file is the same. Without the comment at their front the files of two
names are the same exactly if the names agree on what follows the first closing mark in them, and so
in particular if neither holds that mark. The first line of a class is one line comment exactly if
Java reads no line end in the name. -/
theorem source_name_in_comment (target : Target) (settings : Settings) (outputName : Option RawText)
    (program : Program) (name other : String) (name_ne : name ≠ "") (other_ne : other ≠ "")
    {file : String} (h : text target settings (some name) outputName program = .ok file) :
    ∃ file' rest, text target settings (some other) outputName program = .ok file' ∧
      file = headline target name ++ "\n" ++ rest ∧
      file' = headline target other ++ "\n" ++ rest ∧
      (withoutComment? target file).isSome ∧
      (¬ closing target <:+: name.toList → ¬ closing target <:+: other.toList →
        withoutComment? target file = withoutComment? target file') ∧
      (withoutComment? target file = withoutComment? target file' ↔
        after? (closing target) name.toList = after? (closing target) other.toList) ∧
      (target = .java →
        ((firstLine file = (headline .java name).toList ∧ IsLineComment (firstLine file)) ↔
          KeepsLine name.toList)) := by
  rw [text_named target settings outputName program name_ne] at h
  rw [text_named target settings outputName program other_ne]
  cases later : laterLines target settings outputName program with
  | error failure => rw [later] at h; cases h
  | ok lines =>
    rw [later] at h
    obtain rfl := Except.ok.inj h
    obtain ⟨rest, found⟩ := exists_after_behind later
    have ne : closing target ≠ [] := by cases target <;> decide
    have first : (behind target lines).head? = some '.' := by cases target <;> rfl
    have other_mark : '.' ∉ closing target := by cases target <;> decide
    have pieces : ∀ line, String.ofList (written (line :: lines)) =
        line ++ "\n" ++ String.ofList (written lines) := by
      intro line
      refine String.toList_inj.1 ?_
      simp
    -- Both names stand in front of the same text, in which the mark is found at the latest.
    have same := after?_append_eq_iff first other_mark ne found name.toList other.toList
    rw [← withoutComment?_headline, ← withoutComment?_headline] at same
    refine ⟨_, _, rfl, pieces _, pieces _, ?_, ?_, same, ?_⟩
    · rw [withoutComment?_headline]
      cases own : after? (closing target) name.toList with
      | none => rw [after?_append_of_none first other_mark own, found]; rfl
      | some tail => rw [after?_append_of_some first other_mark own]; rfl
    · intro free free'
      rw [same, (after?_eq_none_iff ne).2 free, (after?_eq_none_iff ne).2 free']
    · rintro rfl
      exact firstLine_isLineComment_iff name lines

/-- A name with a line feed puts code into a class, and a name with three quotes into a module. A
Unicode escape of a line feed leaves the text of a class as it is, but ends the comment. -/
theorem source_name_in_comment_leaks :
    let program : Program := ⟨[⟨"A", [⟨.get, "/"⟩], []⟩]⟩
    (∃ file file', text .java {} (some "a\nb") none program = .ok file ∧
      text .java {} (some "c") none program = .ok file' ∧
      withoutComment? .java file ≠ withoutComment? .java file') ∧
    (∃ file file', text .python {} (some "a\"\"\"b") none program = .ok file ∧
      text .python {} (some "c") none program = .ok file' ∧
      withoutComment? .python file ≠ withoutComment? .python file') ∧
    ∃ file file', text .java {} (some "\\uu000a") none program = .ok file ∧
      text .java {} (some "c") none program = .ok file' ∧
      withoutComment? .java file = withoutComment? .java file' ∧
      ¬ (firstLine file = (headline .java "\\uu000a").toList ∧ IsLineComment (firstLine file)) := by
  intro program
  have made : ∀ target name, ∃ file, text target {} (some name) none program = .ok file := by
    intro target name
    cases target <;> exact ⟨_, rfl⟩
  refine ⟨?_, ?_, ?_⟩
  · obtain ⟨file, made⟩ := made .java "a\nb"
    obtain ⟨file', -, made', -, -, -, -, same, -⟩ :=
      source_name_in_comment .java {} none program "a\nb" "c" (by decide) (by decide) made
    exact ⟨file, file', made, made', fun equal => absurd (same.1 equal) (by decide)⟩
  · obtain ⟨file, made⟩ := made .python "a\"\"\"b"
    obtain ⟨file', -, made', -, -, -, -, same, -⟩ :=
      source_name_in_comment .python {} none program "a\"\"\"b" "c" (by decide) (by decide) made
    exact ⟨file, file', made, made', fun equal => absurd (same.1 equal) (by decide)⟩
  · obtain ⟨file, made⟩ := made .java "\\uu000a"
    obtain ⟨file', -, made', -, -, -, -, same, comment⟩ :=
      source_name_in_comment .java {} none program "\\uu000a" "c" (by decide) (by decide) made
    refine ⟨file, file', made, made', same.2 (by decide), fun whole => ?_⟩
    obtain ⟨input, read, lineFeed, -⟩ := (comment rfl).1 whole
    have escape : "\\uu000a".toList = '\\' :: "uu000a".toList := by decide
    have number : codeUnit? ("uu000a".toList.dropWhile (· == 'u')) = some 10 := by decide
    rw [escape, javaInput?, if_pos ⟨rfl, rfl, rfl⟩, number, Option.bind_eq_bind,
      Option.bind_some] at read
    obtain ⟨rest, -, input_eq⟩ := Option.bind_eq_some_iff.1 read
    obtain rfl := Option.some.inj input_eq
    exact lineFeed List.mem_cons_self

end HttpSuite.Emit
