import HttpSuite.Text.Literal
import Mathlib.Data.List.Basic

/-!
# What a literal holds

A literal runs from its opening quote to the first quote that no backslash escapes. Three facts about
the literals of `Text.literal`:

* **They end where they should** (`closed_escape`): between the quotes of a literal no quote stands
  unescaped and no escape is left open, so what follows a literal cannot be drawn into it
  (`literal_append_inj`).
* **They can be read back** (`decode_escape`): undoing the escapes gives the text.
* **They stay on one line** (`printable_literal`): no character below U+0020 stands in a literal.
-/

namespace HttpSuite.Text

/-- The characters between the quotes of a literal. -/
def escape (cs : List Char) : List Char :=
  cs.flatMap literalChar

theorem toList_literal (text : String) :
    (literal text).toList = '"' :: (escape text.toList ++ ['"']) := by
  rw [literal, String.toList_ofList, literalChars, escape, List.cons_append]

/-! ## Reading escapes -/

/-- The character that a one-letter escape stands for. -/
def shortEscape? : Char → Option Char
  | '"' => some '"'
  | '\\' => some '\\'
  | 'n' => some '\n'
  | 'r' => some '\r'
  | 't' => some '\t'
  | 'b' => some '\x08'
  | 'f' => some '\x0c'
  | _ => none

/-- The value of hexadecimal digits. -/
def hexNumber? (digits : List Char) : Option Nat :=
  digits.foldlM (fun value digit => (hexValue? digit).map (16 * value + ·)) 0

/-- The text that the characters between two quotes denote, unless an escape is unknown or cut
short. -/
def decode : List Char → Option (List Char)
  | [] => some []
  | '\\' :: 'u' :: a :: b :: c :: d :: cs => do
    let value ← hexNumber? [a, b, c, d]
    let rest ← decode cs
    return Char.ofNat value :: rest
  | '\\' :: letter :: cs => do
    let first ← shortEscape? letter
    let rest ← decode cs
    return first :: rest
  | c :: cs => if c = '\\' then none else (decode cs).map (c :: ·)

/-! ## One character

The three ways in which a character is written. All that follows splits on them. -/

/-- How a character stands in a literal: as a short escape, as four hexadecimal digits, or as itself. -/
inductive CharForm (c : Char) : List Char → Prop
  | short (letter : Char) (h : shortEscape? letter = some c) (printable : 0x20 ≤ letter.toNat)
      (ne : letter ≠ 'u') : CharForm c ['\\', letter]
  | coded (h : c.toNat < 0x20) : CharForm c ('\\' :: 'u' :: hexDigits 4 c.toNat)
  | plain (printable : 0x20 ≤ c.toNat) (quote : c ≠ '"') (backslash : c ≠ '\\') : CharForm c [c]

theorem literalChar_eq_self {c : Char} (printable : 0x20 ≤ c.toNat) (quote : c ≠ '"')
    (backslash : c ≠ '\\') : literalChar c = [c] := by
  have above : ∀ d : Char, d.toNat < 0x20 → c ≠ d := by
    rintro d hd rfl
    omega
  simp [literalChar, quote, backslash, above '\n', above '\r', above '\t', above '\x08',
    above '\x0c', Nat.not_lt.2 printable]

theorem charForm_literalChar (c : Char) : CharForm c (literalChar c) := by
  by_cases special : c ∈ ['"', '\\', '\n', '\r', '\t', '\x08', '\x0c']
  · -- The seven characters with a letter of their own.
    simp only [List.mem_cons, List.not_mem_nil, or_false] at special
    rcases special with rfl | rfl | rfl | rfl | rfl | rfl | rfl
    · exact .short '"' rfl (by decide) (by decide)
    · exact .short '\\' rfl (by decide) (by decide)
    · exact .short 'n' rfl (by decide) (by decide)
    · exact .short 'r' rfl (by decide) (by decide)
    · exact .short 't' rfl (by decide) (by decide)
    · exact .short 'b' rfl (by decide) (by decide)
    · exact .short 'f' rfl (by decide) (by decide)
  · simp only [List.mem_cons, List.not_mem_nil, or_false, not_or] at special
    by_cases control : c.toNat < 0x20
    · have written : literalChar c = '\\' :: 'u' :: hexDigits 4 c.toNat := by
        simp [literalChar, special, control]
      rw [written]
      exact .coded control
    · rw [literalChar_eq_self (by omega) special.1 special.2.1]
      exact .plain (by omega) special.1 special.2.1

/-- Characters that need no escape stand for themselves. -/
theorem escape_eq_self {cs : List Char} (h : ∀ c ∈ cs, 0x20 ≤ c.toNat ∧ c ≠ '"' ∧ c ≠ '\\') :
    escape cs = cs := by
  induction cs with
  | nil => rfl
  | cons c cs ih =>
    obtain ⟨printable, quote, backslash⟩ := h c List.mem_cons_self
    rw [escape, List.flatMap_cons, literalChar_eq_self printable quote backslash]
    exact congrArg (c :: ·) (ih fun d hd => h d (List.mem_cons_of_mem c hd))

theorem toList_literal_of_plain {text : String}
    (h : ∀ c ∈ text.toList, 0x20 ≤ c.toNat ∧ c ≠ '"' ∧ c ≠ '\\') :
    (literal text).toList = '"' :: (text.toList ++ ['"']) := by
  rw [toList_literal, escape_eq_self h]

theorem hexNumber?_hexDigits : ∀ n < 0x20, hexNumber? (hexDigits 4 n) = some n := by
  decide

theorem hexDigits_printable :
    ∀ n < 0x20, (hexDigits 4 n).all fun c => 0x20 ≤ c.toNat && c != '"' && c != '\\' := by
  decide

/-! ## Where a literal ends -/

/-- Characters that may stand between two quotes: no quote without a backslash before it, and no
backslash at the end that would escape the closing quote. -/
inductive Closed : List Char → Prop
  | nil : Closed []
  | plain {c : Char} {cs : List Char} (quote : c ≠ '"') (backslash : c ≠ '\\') (rest : Closed cs) :
      Closed (c :: cs)
  | escaped (c : Char) {cs : List Char} (rest : Closed cs) : Closed ('\\' :: c :: cs)

theorem Closed.append {as bs : List Char} (ha : Closed as) (hb : Closed bs) : Closed (as ++ bs) := by
  induction ha with
  | nil => exact hb
  | plain quote backslash _ ih => exact .plain quote backslash ih
  | escaped c _ ih => exact .escaped c ih

theorem closed_of_forall {cs : List Char} (h : ∀ c ∈ cs, c ≠ '"' ∧ c ≠ '\\') : Closed cs := by
  induction cs with
  | nil => exact .nil
  | cons c cs ih =>
    have first := h c List.mem_cons_self
    exact .plain first.1 first.2 (ih fun d hd => h d (List.mem_cons_of_mem c hd))

theorem CharForm.closed {c : Char} {cs : List Char} (form : CharForm c cs) : Closed cs := by
  cases form with
  | short letter => exact .escaped letter .nil
  | coded control =>
    refine .escaped 'u' (closed_of_forall fun d hd => ?_)
    have digit := List.all_eq_true.1 (hexDigits_printable c.toNat control) d hd
    simp only [Bool.and_eq_true, bne_iff_ne] at digit
    exact ⟨digit.1.2, digit.2⟩
  | plain _ quote backslash => exact .plain quote backslash .nil

theorem closed_escape (cs : List Char) : Closed (escape cs) := by
  induction cs with
  | nil => exact .nil
  | cons c cs ih => exact (charForm_literalChar c).closed.append ih

/-- The closing quote is found in one way only. -/
theorem Closed.split {as bs x y : List Char} (ha : Closed as) (hb : Closed bs)
    (h : as ++ '"' :: x = bs ++ '"' :: y) : as = bs ∧ x = y := by
  induction ha generalizing bs with
  | nil =>
    cases hb with
    | nil => exact ⟨rfl, List.tail_eq_of_cons_eq h⟩
    | plain quote => exact absurd (List.head_eq_of_cons_eq h).symm quote
    | escaped => exact absurd (List.head_eq_of_cons_eq h) (by decide)
  | @plain c as quote backslash _ ih =>
    cases hb with
    | nil => exact absurd (List.head_eq_of_cons_eq h) quote
    | plain _ _ rest =>
      obtain ⟨rfl, tail⟩ := List.cons.inj h
      obtain ⟨rfl, rfl⟩ := ih rest tail
      exact ⟨rfl, rfl⟩
    | escaped => exact absurd (List.head_eq_of_cons_eq h) backslash
  | escaped c _ ih =>
    cases hb with
    | nil => exact absurd (List.head_eq_of_cons_eq h) (by decide)
    | plain _ backslash => exact absurd (List.head_eq_of_cons_eq h).symm backslash
    | escaped d rest =>
      obtain ⟨rfl, tail⟩ := List.cons.inj (List.tail_eq_of_cons_eq h)
      obtain ⟨rfl, rfl⟩ := ih rest tail
      exact ⟨rfl, rfl⟩

/-! ## Reading back -/

theorem CharForm.decode_append {c : Char} {front : List Char} (form : CharForm c front)
    (cs : List Char) : decode (front ++ cs) = (decode cs).map (c :: ·) := by
  cases form with
  | short letter known _ ne =>
    have read : decode ('\\' :: letter :: cs) =
        (shortEscape? letter).bind fun first => (decode cs).map (first :: ·) := by
      rw [decode]
      · cases shortEscape? letter <;> cases decode cs <;> rfl
      · intro a b c d rest letter_eq
        exact absurd letter_eq ne
    show decode ('\\' :: letter :: cs) = _
    rw [read, known, Option.bind_some]
  | coded control =>
    have value := hexNumber?_hexDigits c.toNat control
    show decode ('\\' :: 'u' :: (hexDigits 4 c.toNat ++ cs)) = _
    simp only [hexDigits, List.nil_append, List.cons_append] at value ⊢
    rw [decode, value]
    cases decode cs <;> simp
  | plain _ _ backslash =>
    show decode (c :: cs) = _
    rw [decode, if_neg backslash]
    · intro a b d e rest h
      exact absurd h backslash
    · intro letter rest h
      exact absurd h backslash

theorem decode_escape (cs : List Char) : decode (escape cs) = some cs := by
  induction cs with
  | nil => rfl
  | cons c cs ih =>
    show decode (literalChar c ++ escape cs) = some (c :: cs)
    rw [(charForm_literalChar c).decode_append, ih, Option.map_some]

/-- A literal is told apart from all others by where it starts, whatever follows it. -/
theorem literal_append_inj {s t : String} {as bs : List Char}
    (h : (literal s).toList ++ as = (literal t).toList ++ bs) : s = t ∧ as = bs := by
  simp only [toList_literal, List.cons_append, List.append_assoc, List.nil_append] at h
  obtain ⟨inside, rfl⟩ := (closed_escape _).split (closed_escape _) (List.tail_eq_of_cons_eq h)
  have decoded : some s.toList = some t.toList := by
    rw [← decode_escape s.toList, inside, decode_escape]
  exact ⟨String.toList_inj.1 (Option.some.inj decoded), rfl⟩

/-! ## No raw control characters -/

theorem CharForm.printable {c d : Char} {cs : List Char} (form : CharForm c cs) (hd : d ∈ cs) :
    0x20 ≤ d.toNat := by
  cases form with
  | short letter _ printable =>
    rcases List.mem_pair.1 hd with rfl | rfl
    · decide
    · exact printable
  | coded control =>
    rcases List.mem_cons.1 hd with rfl | hd
    · decide
    rcases List.mem_cons.1 hd with rfl | hd
    · decide
    have digit := List.all_eq_true.1 (hexDigits_printable c.toNat control) d hd
    simp only [Bool.and_eq_true, decide_eq_true_eq] at digit
    exact digit.1.1
  | plain printable =>
    rw [List.mem_singleton.1 hd]
    exact printable

theorem printable_escape {cs : List Char} {d : Char} (hd : d ∈ escape cs) : 0x20 ≤ d.toNat := by
  obtain ⟨c, -, hc⟩ := List.mem_flatMap.1 hd
  exact (charForm_literalChar c).printable hc

theorem printable_literal {text : String} {d : Char} (hd : d ∈ (literal text).toList) :
    0x20 ≤ d.toNat := by
  rw [toList_literal] at hd
  rcases List.mem_cons.1 hd with rfl | hd
  · decide
  rcases List.mem_append.1 hd with hd | hd
  · exact printable_escape hd
  · rw [List.mem_singleton.1 hd]
    decide

end HttpSuite.Text
