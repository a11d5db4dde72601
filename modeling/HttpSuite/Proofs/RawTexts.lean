import HttpSuite.Text.RawText
import Mathlib.Data.List.Basic

/-!
# Raw texts that are texts

A raw text is a text exactly if no surrogate stands in it (`RawText.toText_eq_ok_iff`). Otherwise its
first surrogate is reported, with the text in front of it and those that follow it at once
(`RawText.toText_eq_error_iff`).
-/

namespace HttpSuite

namespace RawText

/-! ## Texts as raw texts -/

@[simp]
theorem ofText_empty : ofText "" = [] := rfl

@[simp]
theorem ofText_append (first second : String) :
    ofText (first ++ second) = ofText first ++ ofText second := by
  simp [ofText]

@[simp]
theorem ofText_ofList (cs : List Char) : ofText (String.ofList cs) = cs.map .char := by
  simp [ofText]

@[simp]
theorem length_ofText (text : String) : (ofText text).length = text.length := by
  rw [ofText, List.length_map, String.length_toList]

theorem ofText_injective : Function.Injective ofText := by
  intro first second same
  exact String.toList_inj.1 (List.map_injective_iff.2 (fun _ _ => Point.char.inj) same)

@[simp]
theorem ofText_eq_nil_iff {text : String} : ofText text = [] ↔ text = "" := by
  simp [ofText]

@[simp]
theorem char_mem_ofText {c : Char} {text : String} : .char c ∈ ofText text ↔ c ∈ text.toList := by
  simp [ofText]

@[simp]
theorem surrogate_not_mem_ofText (index : Fin 0x800) (text : String) :
    .surrogate index ∉ ofText text := by
  simp [ofText]

/-- A raw text is a text. -/
def IsText (raw : RawText) : Prop :=
  ∃ text, raw = ofText text

/-! ## Refused surrogates -/

theorem firstRefused?_chars (refused : Fin 0x800 → Bool) (offset : Nat) (cs : List Char)
    (rest : RawText) :
    firstRefused? refused offset (cs.map .char ++ rest) =
      firstRefused? refused (offset + cs.length) rest := by
  induction cs generalizing offset with
  | nil => rfl
  | cons c cs ih =>
    rw [List.map_cons, List.cons_append, firstRefused?, ih, List.length_cons, Nat.add_assoc,
      Nat.add_comm 1]

theorem firstRefused?_eq_none_iff {refused : Fin 0x800 → Bool} {offset : Nat} {raw : RawText} :
    raw.firstRefused? refused offset = none ↔
      ∀ index, .surrogate index ∈ raw → refused index = false := by
  induction raw generalizing offset with
  | nil => simp [firstRefused?]
  | cons point raw ih =>
    cases point with
    | char c => simp [firstRefused?, ih]
    | surrogate index =>
      rw [firstRefused?]
      split
      · rename_i refuses
        simp [refuses]
      · rename_i takes
        simp [ih, takes]

/-- A raw text is a text, or a text goes on with a surrogate. -/
theorem isText_or_surrogate (raw : RawText) :
    raw.IsText ∨ ∃ front index rest, raw = ofText front ++ .surrogate index :: rest := by
  induction raw with
  | nil => exact .inl ⟨"", rfl⟩
  | cons point raw ih =>
    cases point with
    | surrogate index => exact .inr ⟨"", index, raw, rfl⟩
    | char c =>
      have grown (text : String) : .char c :: ofText text = ofText (String.ofList (c :: text.toList)) := by
        simp [ofText]
      rcases ih with ⟨text, rfl⟩ | ⟨front, index, rest, rfl⟩
      · exact .inl ⟨_, grown text⟩
      · refine .inr ⟨String.ofList (c :: front.toList), index, rest, ?_⟩
        rw [← List.cons_append, grown front]

@[simp]
theorem toText_ofText (text : String) : (ofText text).toText = .ok text := by
  have accepted : (ofText text).firstRefused? (fun _ => true) 0 = none := by
    have all := firstRefused?_chars (fun _ => true) 0 text.toList []
    rwa [List.append_nil] at all
  have chars : (ofText text).filterMap Point.char? = text.toList := by
    rw [ofText, List.filterMap_map]
    exact List.filterMap_some
  rw [toText, accepted, chars, String.ofList_toList]

theorem toText_surrogate (front : String) (index : Fin 0x800) (rest : RawText) :
    (ofText front ++ .surrogate index :: rest).toText =
      .error ⟨front.length, index, 1 + (rest.takeWhile Point.isSurrogate).length⟩ := by
  rw [toText, ofText, firstRefused?_chars, firstRefused?, Nat.zero_add, String.length_toList]
  rfl

theorem toText_eq_ok_iff {raw : RawText} {text : String} :
    raw.toText = .ok text ↔ raw = ofText text := by
  refine ⟨fun read => ?_, fun same => by rw [same, toText_ofText]⟩
  rcases isText_or_surrogate raw with ⟨other, rfl⟩ | ⟨front, index, rest, rfl⟩
  · rw [toText_ofText] at read
    rw [Except.ok.inj read]
  · rw [toText_surrogate] at read
    cases read

/-- The first surrogate is reported with its offset and the length of the run that it starts. -/
theorem toText_eq_error_iff {raw : RawText} {fault : EncodingFault} :
    raw.toText = .error fault ↔
      ∃ front rest, raw = ofText front ++ .surrogate fault.index :: rest ∧
        fault.offset = front.length ∧
        fault.length = 1 + (rest.takeWhile Point.isSurrogate).length := by
  constructor
  · intro failed
    rcases isText_or_surrogate raw with ⟨text, rfl⟩ | ⟨front, index, rest, rfl⟩
    · rw [toText_ofText] at failed
      cases failed
    · rw [toText_surrogate] at failed
      cases failed
      exact ⟨front, rest, rfl, rfl, rfl⟩
  · rintro ⟨front, rest, rfl, offset, length⟩
    rw [toText_surrogate, ← offset, ← length]

theorem not_isText_iff {raw : RawText} : ¬ raw.IsText ↔ ∃ fault, raw.toText = .error fault := by
  cases read : raw.toText with
  | ok text => simpa using ⟨text, toText_eq_ok_iff.1 read⟩
  | error fault =>
    refine iff_of_true ?_ ⟨fault, rfl⟩
    rintro ⟨text, rfl⟩
    rw [toText_ofText] at read
    cases read

theorem isText_iff {raw : RawText} : raw.IsText ↔ ∀ index, .surrogate index ∉ raw := by
  constructor
  · rintro ⟨text, rfl⟩ index
    exact surrogate_not_mem_ofText index text
  · intro none
    rcases isText_or_surrogate raw with text | ⟨front, index, rest, rfl⟩
    · exact text
    · exact absurd (List.mem_append_right _ List.mem_cons_self) (none index)

theorem isText_append_iff {first second : RawText} :
    IsText (first ++ second) ↔ IsText first ∧ IsText second := by
  simp only [isText_iff, List.mem_append, not_or, forall_and]

end RawText

end HttpSuite
