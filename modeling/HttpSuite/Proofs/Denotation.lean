import HttpSuite.Proofs.Literal

/-!
# What a literal denotes

A literal of `Text.literal` stands in the source of a Python module or of a Java class, and each of
the two languages reads it by rules of its own. `literal_denotes_text` says that both read the text
that was written:

* **quotes** — a quote inside a literal has an odd number of backslashes right before it, and the
  closing quote an even number (`Closed.odd_at_quote`, `Closed.even`);
* **Python** reads the escapes of a literal in one pass (`python_value_literal`);
* **Java** first replaces Unicode escapes anywhere in a source, each by a character that is then read
  as if it had been written, and reads the escapes of a literal in a second pass. Which backslashes
  start a Unicode escape depends on the number of backslashes before them, and this number is even
  between the characters of a text (`translate_literalChar`). So only the escapes of characters below
  U+0020 are replaced, and none of these characters ends a literal (`java_value_literal`).
-/

namespace HttpSuite.Text

/-! ## Backslashes before a place -/

/-- The number of backslashes right behind a text, which itself has some right before it. -/
def backslashes (before : Nat) (cs : List Char) : Nat :=
  cs.foldl (fun run c => if c = '\\' then run + 1 else 0) before

@[simp] theorem backslashes_nil (before : Nat) : backslashes before [] = before := rfl

@[simp] theorem backslashes_cons (before : Nat) (c : Char) (cs : List Char) :
    backslashes before (c :: cs) = backslashes (if c = '\\' then before + 1 else 0) cs := rfl

/-- An escape leaves an even number of backslashes even: it has two of them or ends in another
character. -/
theorem even_of_escaped {before : Nat} (even : before % 2 = 0) (c : Char) :
    (if c = '\\' then before + 1 + 1 else 0) % 2 = 0 := by
  split <;> omega

/-- No escape is left open. -/
theorem Closed.even {cs : List Char} (h : Closed cs) {before : Nat} (even : before % 2 = 0) :
    backslashes before cs % 2 = 0 := by
  induction h generalizing before with
  | nil => exact even
  | plain _ backslash _ ih =>
    rw [backslashes_cons, if_neg backslash]
    exact ih rfl
  | escaped c _ ih =>
    rw [backslashes_cons, if_pos rfl, backslashes_cons]
    exact ih (even_of_escaped even c)

/-- Every quote is escaped. -/
theorem Closed.odd_at_quote {cs front back : List Char} (h : Closed cs) {before : Nat}
    (even : before % 2 = 0) (split : cs = front ++ '"' :: back) :
    backslashes before front % 2 = 1 := by
  induction h generalizing before front with
  | nil => simp at split
  | @plain c cs quote backslash _ ih =>
    cases front with
    | nil => exact absurd (List.head_eq_of_cons_eq split) quote
    | cons d front =>
      obtain ⟨rfl, tail⟩ := List.cons.inj split
      rw [backslashes_cons, if_neg backslash]
      exact ih rfl tail
  | @escaped c cs _ ih =>
    cases front with
    | nil => exact absurd (List.head_eq_of_cons_eq split) (by decide)
    | cons d front =>
      obtain ⟨rfl, tail⟩ := List.cons.inj split
      rw [backslashes_cons, if_pos rfl]
      cases front with
      | nil =>
        rw [backslashes_nil]
        omega
      | cons d front =>
        obtain ⟨rfl, inner⟩ := List.cons.inj tail
        rw [backslashes_cons]
        exact ih (even_of_escaped even c) inner

/-! ## Reading a literal -/

/-- The character with a number, if there is one. -/
def charOfNumber? (n : Nat) : Option Char :=
  if n.isValidChar then some (Char.ofNat n) else none

/-- The character of an escape with a fixed number of hexadecimal digits at the front of a text. -/
def codedChar? (count : Nat) (cs : List Char) : Option Char :=
  if cs.length < count then none else (hexNumber? (cs.take count)).bind charOfNumber?

/-- What a language makes of the text behind a backslash: what the escape stands for, and how many
characters belong to it. -/
abbrev Escapes : Type := List Char → Option (List Char × Nat)

/-- The text between quotes, by the escapes of a language. The opening quote has been read, the
closing one is the last character, and a line end cannot stand in between. -/
def quoted? (escape? : Escapes) : List Char → Option (List Char)
  | [] => none
  | c :: cs =>
    if c = '"' then if cs.isEmpty then some [] else none
    else if c = '\\' then do
      let (value, length) ← escape? cs
      let rest ← quoted? escape? (cs.drop length)
      return value ++ rest
    else if c = '\n' ∨ c = '\r' then none
    else (quoted? escape? cs).map (c :: ·)
termination_by cs => cs.length
decreasing_by
  · rw [List.length_drop, List.length_cons]
    omega
  · exact Nat.lt_succ_self _

/-- The value of a source text that is one literal in double quotes. -/
def quotedValue? (escape? : Escapes) : List Char → Option String
  | '"' :: cs => (quoted? escape? cs).map String.ofList
  | _ => none

/-- Characters that a language reads as one character between quotes. -/
inductive Denotes (escape? : Escapes) (c : Char) : List Char → Prop
  | plain (quote : c ≠ '"') (backslash : c ≠ '\\') (lineFeed : c ≠ '\n')
      (carriageReturn : c ≠ '\r') : Denotes escape? c [c]
  | escaped {tail : List Char} (read : ∀ rest, escape? (tail ++ rest) = some ([c], tail.length)) :
      Denotes escape? c ('\\' :: tail)

/-- Characters one after the other are read one after the other. -/
theorem quoted?_flatMap {escape? : Escapes} {write : Char → List Char}
    (h : ∀ c, Denotes escape? c (write c)) (cs : List Char) :
    quoted? escape? (cs.flatMap write ++ ['"']) = some cs := by
  induction cs with
  | nil => rw [List.flatMap_nil, List.nil_append, quoted?]; rfl
  | cons c cs ih =>
    rw [List.flatMap_cons, List.append_assoc]
    generalize cs.flatMap write ++ ['"'] = rest at ih ⊢
    have form := h c
    generalize write c = front at form ⊢
    cases form with
    | plain quote backslash lineFeed carriageReturn =>
      simp [quoted?, quote, backslash, lineFeed, carriageReturn, ih]
    | @escaped tail read =>
      rw [List.cons_append, quoted?, read]
      simp [ih]

/-! ## Python -/

/-- The character of a one-letter escape of Python. -/
def pythonLetter? (letter : Char) : Option Char :=
  if letter = '\'' then some '\''
  else if letter = 'a' then some '\x07'
  else if letter = 'v' then some '\x0b'
  else shortEscape? letter

/-- The digits of base eight. -/
def isOctalDigit (c : Char) : Bool :=
  '0' ≤ c && c ≤ '7'

/-- The escapes of Python: a line end that is left out, one to three octal digits, hexadecimal digits
of three lengths, and letters. Any other backslash stands for itself. An escape that names a character
is not read. -/
def pythonEscape? : Escapes
  | [] => none
  | letter :: cs =>
    if letter = '\n' then some ([], 1)
    else if letter = 'x' then (codedChar? 2 cs).map fun c => ([c], 3)
    else if letter = 'u' then (codedChar? 4 cs).map fun c => ([c], 5)
    else if letter = 'U' then (codedChar? 8 cs).map fun c => ([c], 9)
    else if letter = 'N' then none
    else if isOctalDigit letter then
      let digits := ((letter :: cs).takeWhile isOctalDigit).take 3
      some ([Char.ofNat (Nat.ofDigitChars 8 digits 0)], digits.length)
    else match pythonLetter? letter with
      | some c => some ([c], 1)
      | none => some (['\\', letter], 1)

/-- The text that a literal of Python denotes. -/
def pythonValue? (source : String) : Option String :=
  quotedValue? pythonEscape? source.toList

theorem length_hexDigits (width n : Nat) : (hexDigits width n).length = width := by
  induction width generalizing n with
  | zero => rfl
  | succ width ih => rw [hexDigits, List.length_append, ih, List.length_singleton]

theorem charOfNumber?_toNat (c : Char) : charOfNumber? c.toNat = some c := by
  have valid : c.toNat.isValidChar := c.valid
  rw [charOfNumber?, if_pos valid, Char.ofNat_toNat]

/-- The digits of a character below U+0020 are read as that character. -/
theorem codedChar?_hexDigits {c : Char} (control : c.toNat < 0x20) (rest : List Char) :
    codedChar? 4 (hexDigits 4 c.toNat ++ rest) = some c := by
  have length := length_hexDigits 4 c.toNat
  rw [codedChar?, if_neg (by rw [List.length_append]; omega), List.take_left' length,
    hexNumber?_hexDigits _ control, Option.bind_some, charOfNumber?_toNat]

theorem pythonEscape?_short {c letter : Char} (h : shortEscape? letter = some c)
    (rest : List Char) : pythonEscape? (letter :: rest) = some ([c], 1) := by
  unfold shortEscape? at h
  split at h <;> cases h <;> rfl

theorem python_denotes (c : Char) : Denotes pythonEscape? c (literalChar c) := by
  have form := charForm_literalChar c
  generalize literalChar c = front at form ⊢
  cases form with
  | short letter known => exact .escaped (pythonEscape?_short known)
  | coded control =>
    refine .escaped fun rest => ?_
    show (codedChar? 4 (hexDigits 4 c.toNat ++ rest)).map (fun c => ([c], 5)) = _
    rw [codedChar?_hexDigits control, Option.map_some, List.length_cons, length_hexDigits]
  | plain printable quote backslash =>
    refine .plain quote backslash ?_ ?_ <;> (rintro rfl; exact absurd printable (by decide))

theorem python_value_literal (text : String) : pythonValue? (literal text) = some text := by
  rw [pythonValue?, toList_literal, quotedValue?, escape, quoted?_flatMap python_denotes,
    Option.map_some, String.ofList_toList]

/-! ## Java -/

/-- A character of a Java source after Unicode escapes were replaced, and whether one was replaced by
it. -/
structure Glyph where
  char : Char
  produced : Bool
  deriving DecidableEq, Repr

/-- Replace the Unicode escapes of a Java source: a backslash that has an even number of backslashes
right before it starts one if a `u` follows, and then four digits must. -/
def translate? (before : Nat) : List Char → Option (List Glyph)
  | [] => some []
  | c :: cs =>
    if c = '\\' ∧ before % 2 = 0 ∧ cs.head? = some 'u' then do
      let char ← codedChar? 4 (cs.drop 1)
      let rest ← translate? 0 (cs.drop 5)
      return ⟨char, true⟩ :: rest
    else (translate? (if c = '\\' then before + 1 else 0) cs).map (⟨c, false⟩ :: ·)
termination_by cs => cs.length
decreasing_by
  · rw [List.length_drop, List.length_cons]
    omega
  · exact Nat.lt_succ_self _

/-- The escapes of a literal of Java that are left once Unicode escapes were replaced. -/
def javaEscape? : Escapes
  | [] => none
  | letter :: _ => (shortEscape? letter).map fun c => ([c], 1)

/-- The text that a literal of Java denotes. -/
def javaValue? (source : String) : Option String := do
  let glyphs ← translate? 0 source.toList
  quotedValue? javaEscape? (glyphs.map Glyph.char)

/-- Only the parity of the number of backslashes matters. -/
theorem translate?_add_two (before : Nat) (cs : List Char) :
    translate? (before + 2) cs = translate? before cs := by
  induction cs generalizing before with
  | nil => rw [translate?, translate?]
  | cons c cs ih =>
    rw [translate?, translate?.eq_def before, Nat.add_mod_right]
    by_cases backslash : c = '\\'
    · simp only [backslash, if_pos, Nat.add_right_comm before 2 1, ih]
    · simp only [backslash, if_false]

theorem translate?_of_ne {c : Char} (backslash : c ≠ '\\') (before : Nat) (cs : List Char) :
    translate? before (c :: cs) = (translate? 0 cs).map (⟨c, false⟩ :: ·) := by
  rw [translate?, if_neg (fun h => backslash h.1), if_neg backslash]

/-- What is made of a character of a text: a Unicode escape is replaced, other escapes are kept. -/
def glyphs (c : Char) : List Glyph :=
  if (literalChar c)[1]? = some 'u' then [⟨c, true⟩] else (literalChar c).map (⟨·, false⟩)

/-- A character that has a letter of its own, or a quote, is not written as a Unicode escape. -/
theorem ne_of_coded {c : Char} (h : (literalChar c)[1]? = some 'u') :
    c ∉ ['"', '\\', '\r', '\n'] := by
  intro special
  simp only [List.mem_cons, List.not_mem_nil, or_false] at special
  rcases special with rfl | rfl | rfl | rfl <;> exact absurd h (by decide)

theorem ne_of_produced {c : Char} {glyph : Glyph} (h : glyph ∈ glyphs c) (produced : glyph.produced) :
    glyph.char ∉ ['"', '\\', '\r', '\n'] := by
  rw [glyphs] at h
  split at h
  · rename_i coded
    obtain rfl := List.mem_singleton.1 h
    exact ne_of_coded coded
  · obtain ⟨d, -, rfl⟩ := List.mem_map.1 h
    cases produced

/-- The number of backslashes is even again behind each character of a text. -/
theorem translate_literalChar (c : Char) (rest : List Char) :
    translate? 0 (literalChar c ++ rest) = (translate? 0 rest).map (glyphs c ++ ·) := by
  have form := charForm_literalChar c
  rw [glyphs]
  generalize literalChar c = front at form ⊢
  cases form with
  | short letter known printable ne =>
    have kept : translate? 0 ('\\' :: letter :: rest) =
        (translate? 1 (letter :: rest)).map (⟨'\\', false⟩ :: ·) := by
      rw [translate?, if_neg (by simp [ne]), if_pos rfl]
    have closed : translate? 1 (letter :: rest) = (translate? 0 rest).map (⟨letter, false⟩ :: ·) := by
      by_cases backslash : letter = '\\'
      · rw [translate?, if_neg (by simp), if_pos backslash, translate?_add_two]
      · exact translate?_of_ne backslash 1 rest
    show translate? 0 ('\\' :: letter :: rest) = _
    rw [kept, closed, Option.map_map, if_neg (by simp [ne])]
    rfl
  | coded control =>
    show translate? 0 ('\\' :: 'u' :: (hexDigits 4 c.toNat ++ rest)) = _
    rw [translate?, if_pos ⟨rfl, rfl, rfl⟩]
    have drop : ('u' :: (hexDigits 4 c.toNat ++ rest)).drop 5 = rest :=
      List.drop_left' (length_hexDigits 4 c.toNat)
    rw [drop, List.drop_succ_cons, List.drop_zero, codedChar?_hexDigits control]
    cases translate? 0 rest <;> rfl
  | plain printable quote backslash =>
    rw [List.singleton_append, translate?_of_ne backslash]
    rfl

theorem translate_escape (cs rest : List Char) :
    translate? 0 (escape cs ++ rest) = (translate? 0 rest).map (cs.flatMap glyphs ++ ·) := by
  induction cs with
  | nil => exact Option.map_id'.symm
  | cons c cs ih =>
    rw [escape, List.flatMap_cons, List.append_assoc, translate_literalChar, ← escape, ih,
      Option.map_map, List.flatMap_cons]
    simp [Function.comp_def]

theorem translate_literal (text : String) :
    translate? 0 (literal text).toList =
      some (⟨'"', false⟩ :: (text.toList.flatMap glyphs ++ [⟨'"', false⟩])) := by
  rw [toList_literal, translate?_of_ne (by decide), translate_escape, translate?_of_ne (by decide),
    translate?]
  rfl

theorem java_denotes (c : Char) : Denotes javaEscape? c ((glyphs c).map Glyph.char) := by
  rw [glyphs]
  split
  · rename_i coded
    have other := ne_of_coded coded
    simp only [List.mem_cons, List.not_mem_nil, or_false, not_or] at other
    exact .plain other.1 other.2.1 other.2.2.2 other.2.2.1
  · rename_i kept
    rw [List.map_map]
    have form := charForm_literalChar c
    generalize literalChar c = front at form kept ⊢
    cases form with
    | short letter known =>
      exact .escaped fun rest => by simp [javaEscape?, known]
    | coded => exact absurd rfl kept
    | plain printable quote backslash =>
      refine .plain quote backslash ?_ ?_ <;> (rintro rfl; exact absurd printable (by decide))

theorem java_value_literal (text : String) : javaValue? (literal text) = some text := by
  have chars : (text.toList.flatMap glyphs).map Glyph.char =
      text.toList.flatMap fun c => (glyphs c).map Glyph.char := List.map_flatMap
  rw [javaValue?, translate_literal, Option.bind_eq_bind, Option.bind_some, List.map_cons,
    List.map_append, chars, List.map_singleton, quotedValue?, quoted?_flatMap java_denotes,
    Option.map_some, String.ofList_toList]

/-! ## Both languages -/

/-- **A literal denotes its text.** It stands between two quotes, and has neither another quote that
is not escaped nor a raw character below U+0020. Python and Java read it as the text that was written;
of the characters that Java puts in place of Unicode escapes none is a quote, a backslash or a line
end. So different texts have different literals. -/
theorem literal_denotes_text (text : String) :
    (∃ inside, (literal text).toList = '"' :: (inside ++ ['"']) ∧
      (∀ before after, inside = before ++ '"' :: after → backslashes 0 before % 2 = 1) ∧
      backslashes 0 inside % 2 = 0 ∧ ∀ c ∈ inside, 0x20 ≤ c.toNat) ∧
    pythonValue? (literal text) = some text ∧
    javaValue? (literal text) = some text ∧
    (∃ glyphs, translate? 0 (literal text).toList = some glyphs ∧
      ∀ glyph ∈ glyphs, glyph.produced → glyph.char ∉ ['"', '\\', '\r', '\n']) ∧
    ∀ other, literal other = literal text → other = text := by
  have closed := closed_escape text.toList
  refine ⟨⟨escape text.toList, toList_literal text, fun before after => closed.odd_at_quote rfl,
    closed.even rfl, fun c => printable_escape⟩, python_value_literal text,
    java_value_literal text, ⟨_, translate_literal text, ?_⟩, ?_⟩
  · intro glyph hm produced
    rcases List.mem_cons.1 hm with rfl | hm
    · cases produced
    rcases List.mem_append.1 hm with hm | hm
    · obtain ⟨c, -, hc⟩ := List.mem_flatMap.1 hm
      exact ne_of_produced hc produced
    · obtain rfl := List.mem_singleton.1 hm
      cases produced
  · intro other same
    have value := python_value_literal other
    rw [same, python_value_literal] at value
    exact (Option.some.inj value).symm

/-- A text that looks like the escape of a quote is read back. As an escape it would be a quote in
Python, but end the literal in Java. -/
example : javaValue? (literal "\\u0022") = some "\\u0022" ∧
    pythonValue? "\"\\u0022\"" = some "\"" ∧ javaValue? "\"\\u0022\"" = none := by
  decide +kernel

end HttpSuite.Text
