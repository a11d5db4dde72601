import HttpSuite.Proofs.Accepted
import HttpSuite.Proofs.FirstFailure
import Mathlib.Data.List.Basic
import Mathlib.Data.List.TakeWhile

/-!
# Classes and their files

A public class has to be named after its file. Without a name in the settings, the class is named after
the last part of the output's path, less one extension (`Path.NamesFile`). That part is described
without reading the path: it stands at the front or behind a slash, and nothing but slashes and single
dots follow it (`Path.LastPart`). Splitting at the slashes finds the same part (`Path.name_eq_iff`).
The main statement is `class_named_after_file`: the class gets exactly the Java name that names the
file, and if there is none, the output is refused.
-/

namespace HttpSuite

/-- A text is cut at the last place where a code point stands in it. -/
theorem exists_last_mem {point : Point} {raw : RawText} (h : point ∈ raw) :
    ∃ first second, raw = first ++ point :: second ∧ point ∉ second := by
  obtain ⟨second, first, split, free⟩ := List.eq_append_cons_of_mem (List.mem_reverse.2 h)
  refine ⟨first.reverse, second.reverse, ?_, by simpa using free⟩
  rw [← List.reverse_reverse raw, split]
  simp

namespace Path

/-! ## The last part of a path -/

/-- Slashes and single dots between them: what may follow the last part of a path. -/
inductive Idle : RawText → Prop
  | nil : Idle []
  | slash {rest : RawText} : Idle rest → Idle (.char '/' :: rest)
  | dot {rest : RawText} : Idle rest → Idle (.char '/' :: .char '.' :: rest)

/-- A part that is not dropped, and that no such part follows. -/
structure LastPart (text part : RawText) : Prop where
  ne_nil : part ≠ []
  ne_dot : part ≠ [.char '.']
  no_slash : .char '/' ∉ part
  split : ∃ before after, text = before ++ part ++ after ∧
    (before = [] ∨ before.getLast? = some (.char '/')) ∧ Idle after

/-- The name of a file is the last part of its path, or that part without its extension. -/
def NamesFile (name : String) (output : RawText) : Prop :=
  ∃ part, LastPart output part ∧
    (part = RawText.ofText name ∨
      ∃ extension : RawText, extension ≠ [] ∧ .char '.' ∉ extension ∧
        part = RawText.ofText name ++ .char '.' :: extension)

theorem Idle.append {first second : RawText} (h : Idle first) (next : Idle second) :
    Idle (first ++ second) := by
  induction h with
  | nil => exact next
  | slash _ ih => exact .slash ih
  | dot _ ih => exact .dot ih

/-- A path goes on behind its last part with whatever says nothing. -/
theorem LastPart.append {text part more : RawText} (h : LastPart text part) (idle : Idle more) :
    LastPart (text ++ more) part := by
  obtain ⟨before, after, rfl, front, rest⟩ := h.split
  exact ⟨h.ne_nil, h.ne_dot, h.no_slash,
    before, after ++ more, by simp [List.append_assoc], front, rest.append idle⟩

/-! ## Splitting at the slashes -/

theorem splitSlashes_slash (raw : RawText) :
    splitSlashes (.char '/' :: raw) = [] :: splitSlashes raw := rfl

theorem splitSlashes_cons {point : Point} {raw part : RawText} {parts : List RawText}
    (ne : point ≠ .char '/') (h : splitSlashes raw = part :: parts) :
    splitSlashes (point :: raw) = (point :: part) :: parts := by
  rw [splitSlashes] at h ⊢
  rw [List.foldr_cons, if_neg ne, h]

theorem exists_splitSlashes (raw : RawText) : ∃ part parts, splitSlashes raw = part :: parts := by
  induction raw with
  | nil => exact ⟨[], [], rfl⟩
  | cons point raw ih =>
    obtain ⟨part, parts, split⟩ := ih
    by_cases slash : point = .char '/'
    · exact ⟨[], splitSlashes raw, slash ▸ splitSlashes_slash raw⟩
    · exact ⟨point :: part, parts, splitSlashes_cons slash split⟩

theorem splitSlashes_append (first second : RawText) :
    splitSlashes (first ++ .char '/' :: second) = splitSlashes first ++ splitSlashes second := by
  induction first with
  | nil => rfl
  | cons point first ih =>
    by_cases slash : point = .char '/'
    · rw [slash, List.cons_append, splitSlashes_slash, splitSlashes_slash, ih, List.cons_append]
    · obtain ⟨part, parts, split⟩ := exists_splitSlashes first
      rw [split, List.cons_append] at ih
      rw [List.cons_append, splitSlashes_cons slash ih, splitSlashes_cons slash split,
        List.cons_append]

theorem splitSlashes_of_not_mem {raw : RawText} (h : .char '/' ∉ raw) : splitSlashes raw = [raw] := by
  induction raw with
  | nil => rfl
  | cons point raw ih =>
    rw [List.mem_cons, not_or] at h
    exact splitSlashes_cons (Ne.symm h.1) (ih h.2)

theorem parts_append (first second : RawText) :
    (ofText (first ++ .char '/' :: second)).parts = (ofText first).parts ++ (ofText second).parts := by
  simp only [ofText, splitSlashes_append, List.filter_append]

/-- A text without slashes is one part, unless it is dropped. -/
theorem parts_of_not_mem {raw : RawText} (h : .char '/' ∉ raw) :
    (ofText raw).parts = if raw = [] ∨ raw = [.char '.'] then [] else [raw] := by
  rw [ofText, splitSlashes_of_not_mem h, List.filter_cons]
  by_cases dropped : raw = [] ∨ raw = [.char '.']
  · rw [if_pos dropped, if_neg (by simpa using or_iff_not_imp_left.1 dropped)]
    rfl
  · rw [if_neg dropped, if_pos (by simpa [not_or] using dropped)]
    rfl

/-- What says nothing has no parts, whatever stands in front of it. -/
theorem parts_append_idle {raw after : RawText} (idle : Idle after) :
    (ofText (raw ++ after)).parts = (ofText raw).parts := by
  induction idle generalizing raw with
  | nil => rw [List.append_nil]
  | @slash rest _ ih =>
    have none : (ofText rest).parts = [] := @ih []
    rw [parts_append, none, List.append_nil]
  | @dot rest _ ih =>
    have none : (ofText (.char '.' :: rest)).parts = [] := @ih [.char '.']
    rw [parts_append, none, List.append_nil]

/-! ## Both descriptions of the last part -/

/-- A part found by splitting is the last part as described. -/
theorem lastPart_of_getLast? {raw part : RawText} (h : (ofText raw).parts.getLast? = some part) :
    LastPart raw part := by
  -- Recursion on the text without its last slash and what stands behind that.
  by_cases slash : .char '/' ∈ raw
  · obtain ⟨first, second, split, free⟩ := exists_last_mem slash
    rw [split, parts_append, parts_of_not_mem free] at h
    rw [split]
    by_cases dropped : second = [] ∨ second = [.char '.']
    · rw [if_pos dropped, List.append_nil] at h
      have idle : Idle (.char '/' :: second) := by
        rcases dropped with rfl | rfl
        · exact .slash .nil
        · exact .dot .nil
      exact (lastPart_of_getLast? h).append idle
    · rw [if_neg dropped, List.getLast?_concat] at h
      obtain rfl := Option.some.inj h
      rw [not_or] at dropped
      exact ⟨dropped.1, dropped.2, free, first ++ [.char '/'], [], by simp, .inr (by simp), .nil⟩
  · rw [parts_of_not_mem slash] at h
    split at h
    · cases h
    · next kept =>
      obtain rfl := Option.some.inj h
      rw [not_or] at kept
      exact ⟨kept.1, kept.2, slash, [], [], by simp, .inl rfl, .nil⟩
termination_by raw.length
decreasing_by
  rw [split]
  simp

theorem LastPart.getLast? {raw part : RawText} (h : LastPart raw part) :
    (ofText raw).parts.getLast? = some part := by
  obtain ⟨before, after, rfl, front, idle⟩ := h.split
  have alone : (ofText part).parts = [part] := by
    rw [parts_of_not_mem h.no_slash, if_neg (not_or.2 ⟨h.ne_nil, h.ne_dot⟩)]
  rw [parts_append_idle idle]
  rcases front with rfl | slash
  · rw [List.nil_append, alone]
    rfl
  · obtain ⟨directory, rfl⟩ := List.getLast?_eq_some_iff.1 slash
    rw [List.append_assoc, List.singleton_append, parts_append, alone, List.getLast?_concat]

/-- The name of a path is its last part. -/
theorem name_eq_iff {output part : RawText} (ne : part ≠ []) :
    (ofText output).name = part ↔ LastPart output part := by
  rw [name]
  constructor
  · intro h
    cases last : (ofText output).parts.getLast? with
    | none => exact absurd (by rw [← h, last]; rfl) ne
    | some found =>
      rw [last, Option.getD_some] at h
      exact lastPart_of_getLast? (by rw [last, h])
  · intro h
    rw [h.getLast?, Option.getD_some]

end Path

/-! ## Extensions -/

/-- The last dot of a name separates the extension, unless it stands at an end. -/
theorem stemOf_eq {base extension : RawText} (dotless : .char '.' ∉ extension) :
    stemOf (base ++ .char '.' :: extension) =
      if base = [] ∨ extension = [] then base ++ .char '.' :: extension else base := by
  have passed : ∀ point ∈ extension.reverse, (point != .char '.') = true := fun point hp =>
    bne_iff_ne.2 fun dot => dotless (dot ▸ List.mem_reverse.1 hp)
  have reversed : (base ++ .char '.' :: extension).reverse =
      extension.reverse ++ .char '.' :: base.reverse := by
    simp
  have taken : (base ++ .char '.' :: extension).reverse.takeWhile (· != .char '.') =
      extension.reverse := by
    rw [reversed, List.takeWhile_append_of_pos passed]
    simp
  have dropped : (base ++ .char '.' :: extension).reverse.dropWhile (· != .char '.') =
      .char '.' :: base.reverse := by
    rw [reversed, List.dropWhile_append_of_pos passed]
    simp
  have shorter : extension.length < (base ++ .char '.' :: extension).length := by
    rw [List.length_append, List.length_cons]
    omega
  simp only [stemOf, taken, dropped, List.length_reverse, shorter, List.drop_one, List.tail_cons,
    List.reverse_reverse, List.isEmpty_reverse, decide_true, Bool.true_and]
  cases base <;> cases extension <;> simp

theorem stemOf_of_not_mem {name : RawText} (h : .char '.' ∉ name) : stemOf name = name := by
  have passed : ∀ point ∈ name.reverse, (point != .char '.') = true := fun point hp =>
    bne_iff_ne.2 fun dot => h (dot ▸ List.mem_reverse.1 hp)
  simp [stemOf, List.takeWhile_eq_self_iff.2 passed]

/-- A name is its stem, or its stem with one extension. -/
theorem stemOf_cases (name : RawText) :
    name = stemOf name ∨
      ∃ extension, extension ≠ [] ∧ .char '.' ∉ extension ∧
        name = stemOf name ++ .char '.' :: extension := by
  by_cases dot : .char '.' ∈ name
  · obtain ⟨base, extension, rfl, dotless⟩ := exists_last_mem dot
    by_cases ends : base = [] ∨ extension = []
    · exact .inl (by rw [stemOf_eq dotless, if_pos ends])
    · refine .inr ⟨extension, (not_or.1 ends).2, dotless, ?_⟩
      rw [stemOf_eq dotless, if_neg ends]
  · exact .inl (stemOf_of_not_mem dot).symm

/-! ## Classes -/

theorem isJavaName_ne_empty {name : String} (h : isJavaName name) : name ≠ "" := by
  rintro rfl
  exact absurd h (by decide)

/-- For a Java name, the stem of a path is the name of the file. -/
theorem stem_eq_iff {name : String} {output : RawText} (java : isJavaName name) :
    (Path.ofText output).stem = name ↔ Path.NamesFile name output := by
  have dotless : .char '.' ∉ RawText.ofText name := by
    rw [RawText.char_mem_ofText]
    exact not_mem_of_isJavaName java (by decide) (by decide) (by decide)
  have ne : RawText.ofText name ≠ [] :=
    RawText.ofText_eq_nil_iff.not.2 (isJavaName_ne_empty java)
  rw [Path.stem]
  constructor
  · intro stem
    refine ⟨(Path.ofText output).name, (Path.name_eq_iff ?_).1 rfl, stem ▸ stemOf_cases _⟩
    intro empty
    rw [empty] at stem
    exact ne stem.symm
  · rintro ⟨part, last, rfl | ⟨extension, he, hd, rfl⟩⟩
    · rw [(Path.name_eq_iff ne).2 last, stemOf_of_not_mem dotless]
    · rw [(Path.name_eq_iff (by simp)).2 last, stemOf_eq hd, if_neg (not_or.2 ⟨ne, he⟩)]

namespace Emit.JavaClass

variable {options : JavaOptions} {name : String} {output : RawText}

/-- Without a name in the settings, a class gets the Java name that names its file. -/
theorem className_eq_ok_iff (unnamed : options.className = none) (ne : output ≠ []) :
    className options (some output) = .ok name ↔ isJavaName name ∧ Path.NamesFile name output := by
  rw [className_of_output unnamed ne]
  exact and_congr_right fun java => stem_eq_iff java

/-- A name with the extension of Java names its file in every directory. -/
theorem namesFile_java (directory : RawText) (java : isJavaName name) :
    Path.NamesFile name (directory ++ "/" ++ name ++ ".java") := by
  have slash : '/' ∉ name.toList :=
    not_mem_of_isJavaName java (by decide) (by decide) (by decide)
  have extension : RawText.ofText ".java" = .char '.' :: RawText.ofText "java" := rfl
  refine ⟨name ++ ".java", ?_, .inr ⟨"java", by decide, by decide, by rw [extension]⟩⟩
  refine ⟨by simp, ?_, ?_, directory ++ "/", [], by simp, .inr ?_, .nil⟩
  · intro dot
    have length := congrArg List.length dot
    have suffix : (RawText.ofText ".java").length = 5 := rfl
    rw [List.length_append, suffix, List.length_singleton] at length
    omega
  · rw [List.mem_append, not_or, RawText.char_mem_ofText, RawText.char_mem_ofText]
    exact ⟨slash, by decide⟩
  · exact List.getLast?_concat

/-- The class of accepted settings has a name that Java takes. If the settings name none, it is the one
Java name that is the last part of the output's path, alone or in front of an extension; so a class is
named after its own source file in every directory. An output that no Java name names is refused with
an error about the file. -/
theorem class_named_after_file {settings : Settings} (accepted : settings.Accepted) :
    (∀ outputName name, className settings.targets.java outputName = .ok name → isJavaName name) ∧
    (settings.targets.java.className = none →
      (∀ output name, output ≠ [] →
        (className settings.targets.java (some output) = .ok name ↔
          isJavaName name ∧ Path.NamesFile name output)) ∧
      (∀ (directory : RawText) name, isJavaName name →
        className settings.targets.java (some (directory ++ "/" ++ name ++ ".java")) = .ok name) ∧
      (∀ output, output ≠ [] → (∀ name, isJavaName name → ¬ Path.NamesFile name output) →
        ∃ stem, (className settings.targets.java (some output)).mapError Failure.ofEmit =
          .error (.error (.unwritable (Path.ofText output) (.className stem))))) := by
  refine ⟨fun _ _ => accepted.isJavaName_className, fun unnamed => ⟨?_, ?_, ?_⟩⟩
  · intro output name ne
    exact className_eq_ok_iff unnamed ne
  · intro directory name java
    exact (className_eq_ok_iff unnamed (by simp)).2 ⟨java, namesFile_java directory java⟩
  · intro output ne nameless
    cases named : className settings.targets.java (some output) with
    | ok name =>
      obtain ⟨java, file⟩ := (className_eq_ok_iff unnamed ne).1 named
      exact absurd file (nameless name java)
    | error failure =>
      obtain ⟨_, -, same, -, -, rfl⟩ := className_eq_error_iff.1 named
      obtain rfl := Option.some.inj same
      exact ⟨_, rfl⟩

/-- The default settings, and an output with dots for parts in front of its file and behind it. -/
theorem class_named_after_file_between_dots :
    ({} : Settings).Accepted ∧
      className {} (some (RawText.ofText "out/./..a/Api$Tests.v2/./")) = .ok "Api$Tests" := by
  have accepted : ({} : Settings).Accepted := ⟨.mapping [], rfl⟩
  have file : Path.NamesFile "Api$Tests" (RawText.ofText "out/./..a/Api$Tests.v2/./") := by
    refine ⟨RawText.ofText "Api$Tests.v2", ?_, .inr ⟨RawText.ofText "v2", by decide, by decide, rfl⟩⟩
    exact ⟨by decide, by decide, by decide, RawText.ofText "out/./..a/", RawText.ofText "/./",
      by decide, by decide, .dot (.slash .nil)⟩
  exact ⟨accepted,
    (((class_named_after_file accepted).2 rfl).1 _ _ (by decide)).2 ⟨by decide, file⟩⟩

end Emit.JavaClass

end HttpSuite
