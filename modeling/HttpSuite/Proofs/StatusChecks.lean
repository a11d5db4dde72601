import HttpSuite.Proofs.Document
import HttpSuite.Proofs.Terminals
import Mathlib.Algebra.Group.Nat.Defs
import Mathlib.Algebra.Ring.Int.Defs

/-!
# What a status check means

A check of a status becomes a statement of a Python module or of a Java class. Here the statements are
read as the two languages read them, and `status_checks_agree` says that both mean what the check says:

* **forms** — a statement has a fixed form with numbers in it, and reading a statement by its form gives
  the numbers back (`fill?_code`, `fill?_number`, `fill?_literal`);
* **numbers** — Python's have no bounds, Java's are of type `int` or `long`. What `intLiteral` writes is
  a literal of one of the two types, and its value is the number up to the greatest `long`
  (`javaNumber?_boundText`, `toInt_saturated`). Numbers of too many digits cannot be written, and where
  a statement would need one there is no statement (`pythonEquals_eq`, `between_eq`);
* **comparisons** — Java compares an `int` with a `long` as two `long`s, which changes no outcome
  (`JavaNumber.compared_iff`). Nor does the bound on a number, as no status comes near it
  (`status_lt_longMax`).
-/

namespace HttpSuite.Emit

open Text (literal)
open Lexing (Stops takeWhile_append_of_stops dropWhile_append_of_stops)

/-! ## Forms of statements -/

/-- A part of the form of a statement. -/
inductive Slot
  | code (text : String)
  | number
  /-- Some literal, whatever it holds. -/
  | literal

/-- What follows a piece of code. -/
def afterCode? (code : String) (cs : List Char) : Option (List Char) :=
  if code.toList.isPrefixOf cs then some (cs.drop code.toList.length) else none

/-- What follows the first quote that no backslash escapes. -/
def afterQuote? : List Char → Option (List Char)
  | [] => none
  | '\\' :: _ :: cs => afterQuote? cs
  | c :: cs => if c = '"' then some cs else afterQuote? cs

/-- The numbers in a statement of a form, by the way in which a language reads numbers. -/
def fill? {Value : Type} (number? : List Char → Option (Value × List Char)) :
    List Slot → List Char → Option (List Value)
  | [], cs => if cs.isEmpty then some [] else none
  | .code text :: slots, cs => (afterCode? text cs).bind (fill? number? slots)
  | .number :: slots, cs =>
    (number? cs).bind fun read => (fill? number? slots read.2).map (read.1 :: ·)
  | .literal :: slots, cs =>
    if cs.head? = some '"' then (afterQuote? cs.tail).bind (fill? number? slots) else none

section Forms

variable {Value : Type} {number? : List Char → Option (Value × List Char)} {slots : List Slot}

theorem afterCode?_append (code : String) (rest : List Char) :
    afterCode? code (code.toList ++ rest) = some rest := by
  rw [afterCode?, if_pos (List.isPrefixOf_iff_prefix.2 (List.prefix_append _ _)), List.drop_left]

theorem afterCode?_eq_none {code : String} {cs : List Char}
    (h : ∀ rest, cs ≠ code.toList ++ rest) : afterCode? code cs = none := by
  rw [afterCode?, if_neg]
  intro front
  obtain ⟨rest, whole⟩ := List.isPrefixOf_iff_prefix.1 front
  exact h rest whole.symm

theorem afterQuote?_of_closed {cs : List Char} (h : Text.Closed cs) (rest : List Char) :
    afterQuote? (cs ++ '"' :: rest) = some rest := by
  induction h with
  | nil => simp [afterQuote?]
  | plain quote backslash _ ih =>
    rw [List.cons_append, afterQuote?, if_neg quote, ih]
    intro _ _ same
    exact absurd same backslash
  | escaped c _ ih => rw [List.cons_append, List.cons_append, afterQuote?, ih]

theorem fill?_code (text : String) (cs : List Char) :
    fill? number? (.code text :: slots) (text.toList ++ cs) = fill? number? slots cs := by
  rw [fill?, afterCode?_append, Option.bind_some]

theorem fill?_number {cs rest : List Char} {value : Value} (h : number? cs = some (value, rest)) :
    fill? number? (.number :: slots) cs = (fill? number? slots rest).map (value :: ·) := by
  rw [fill?, h, Option.bind_some]

theorem fill?_literal (text : String) (cs : List Char) :
    fill? number? (.literal :: slots) ((literal text).toList ++ cs) = fill? number? slots cs := by
  have inside : '"' :: (Text.escape text.toList ++ ['"']) ++ cs =
      '"' :: (Text.escape text.toList ++ '"' :: cs) := by simp
  rw [Text.toList_literal, inside, fill?, List.head?_cons, if_pos rfl, List.tail_cons,
    afterQuote?_of_closed (Text.closed_escape _), Option.bind_some]

end Forms

/-! ## Numbers without bounds -/

/-- The decimal number at the front of a text, and what follows it. A zero does not stand in front of
other digits. -/
def decimal? (cs : List Char) : Option (Nat × List Char) :=
  let digits := cs.takeWhile Char.isDigit
  if digits = [] ∨ (digits.head? = some '0' ∧ digits ≠ ['0']) then none
  else some (Nat.ofDigitChars 10 digits 0, cs.dropWhile Char.isDigit)

/-- The decimal number at the front of a text, which a minus may precede. -/
def signed? : List Char → Option (Int × List Char)
  | '-' :: cs => (decimal? cs).map fun read => (-(read.1 : Int), read.2)
  | cs => (decimal? cs).map fun read => ((read.1 : Int), read.2)

theorem decimal?_repr (n : Nat) {rest : List Char} (stops : Stops Char.isDigit rest) :
    decimal? (n.repr.toList ++ rest) = some (n, rest) := by
  have digits : ∀ c ∈ n.repr.toList, c.isDigit := fun c => Number.isDigit_of_mem_repr
  have zero : ¬(n.repr.toList = [] ∨ (n.repr.toList.head? = some '0' ∧ n.repr.toList ≠ ['0'])) := by
    rintro (empty | ⟨head, other⟩)
    · exact Nat.repr_ne_empty (String.toList_eq_nil_iff.1 empty)
    · by_cases positive : n = 0
      · subst positive
        exact other rfl
      · rw [Nat.toList_repr] at head
        exact Number.head?_toDigits positive head
  simp only [decimal?, takeWhile_append_of_stops digits stops, dropWhile_append_of_stops digits stops,
    if_neg zero]
  rw [Nat.toList_repr, Nat.ofDigitChars_ten_toDigits]

theorem signed?_repr (n : Int) {rest : List Char} (stops : Stops Char.isDigit rest) :
    signed? (n.repr.toList ++ rest) = some (n, rest) := by
  cases n with
  | ofNat n =>
    show signed? (n.repr.toList ++ rest) = _
    rw [signed?, decimal?_repr n stops, Option.map_some]
    · rfl
    · intro cs minus
      exact append_ne_cons Nat.repr_ne_empty
        (fun h => absurd (Number.isDigit_of_mem_repr h) (by decide)) minus
  | negSucc n =>
    have minus : (Int.negSucc n).repr.toList = '-' :: (n + 1).repr.toList := by
      rw [Int.repr, String.toList_append]
      rfl
    rw [minus, List.cons_append, signed?, decimal?_repr (n + 1) stops, Option.map_some]
    rfl

/-! ## Numbers of Java -/

/-- A number of Java, of one of two types. -/
inductive JavaNumber
  | int (value : Int32)
  | long (value : Int64)
  deriving DecidableEq, Repr

namespace JavaNumber

/-- The value of a number. -/
def toInt : JavaNumber → Int
  | .int value => value.toInt
  | .long value => value.toInt

/-- A number as a `long`. -/
def widened : JavaNumber → Int64
  | .int value => value.toInt64
  | .long value => value

/-- A comparison of two numbers: as they are if both are of type `int`, and otherwise as `long`s. -/
def compared (ints : Int32 → Int32 → Bool) (longs : Int64 → Int64 → Bool) :
    JavaNumber → JavaNumber → Bool
  | .int a, .int b => ints a b
  | a, b => longs a.widened b.widened

/-- Whether a number is at most another. -/
def le : JavaNumber → JavaNumber → Bool :=
  compared (fun a b => decide (a ≤ b)) (fun a b => decide (a ≤ b))

/-- Whether two numbers are equal. -/
def same : JavaNumber → JavaNumber → Bool :=
  compared (fun a b => decide (a = b)) (fun a b => decide (a = b))

theorem toInt_widened (a : JavaNumber) : a.widened.toInt = a.toInt := by
  cases a with
  | int value => exact Int32.toInt_toInt64 value
  | long value => rfl

/-- Widening changes no comparison that is one of values in both types. -/
theorem compared_iff {ints : Int32 → Int32 → Bool} {longs : Int64 → Int64 → Bool}
    {holds : Int → Int → Prop} (hi : ∀ a b, ints a b ↔ holds a.toInt b.toInt)
    (hl : ∀ a b, longs a b ↔ holds a.toInt b.toInt) (a b : JavaNumber) :
    compared ints longs a b ↔ holds a.toInt b.toInt := by
  have widened : longs a.widened b.widened ↔ holds a.toInt b.toInt := by
    rw [hl, toInt_widened, toInt_widened]
  cases a with
  | long => exact widened
  | int a =>
    cases b with
    | long => exact widened
    | int b => exact hi a b

theorem le_iff (a b : JavaNumber) : a.le b ↔ a.toInt ≤ b.toInt := by
  refine compared_iff (fun a b => ?_) (fun a b => ?_) a b
  · rw [decide_eq_true_iff, Int32.le_iff_toInt_le]
  · rw [decide_eq_true_iff, Int64.le_iff_toInt_le]

theorem same_iff (a b : JavaNumber) : a.same b ↔ a.toInt = b.toInt := by
  refine compared_iff (fun a b => ?_) (fun a b => ?_) a b
  · rw [decide_eq_true_iff, Int32.toInt_inj]
  · rw [decide_eq_true_iff, Int64.toInt_inj]

end JavaNumber

/-- The least value of type `int`. -/
def intMin : Int := -Int.pow 2 31

/-- The least value of type `long`. -/
def longMin : Int := -Int.pow 2 63

/-- The number at the front of a text, and what follows it: the greatest `long` by its name, a literal
with the letter of type `long`, or a literal of type `int`. A literal must be in the range of its type;
the least value is only written with a minus. -/
def javaNumber? (cs : List Char) : Option (JavaNumber × List Char) :=
  match afterCode? "Long.MAX_VALUE" cs with
  | some rest => some (.long Int64.maxValue, rest)
  | none => (signed? cs).bind fun read =>
    if read.2.head? = some 'L' then
      if longMin ≤ read.1 ∧ read.1 ≤ JavaClass.longMax then
        some (.long (Int64.ofInt read.1), read.2.tail)
      else none
    else if intMin ≤ read.1 ∧ read.1 ≤ JavaClass.intMax then
      some (.int (Int32.ofInt read.1), read.2)
    else none

/-- The number that the literal for a bound stands for. -/
def saturated (value : Int) : JavaNumber :=
  if value ≤ JavaClass.intMax then .int (Int32.ofInt value)
  else if value ≤ JavaClass.longMax then .long (Int64.ofInt value)
  else .long Int64.maxValue

theorem intMax_eq : JavaClass.intMax = 2147483647 := rfl
theorem longMax_eq : JavaClass.longMax = 9223372036854775807 := rfl
theorem intMin_eq : intMin = -2147483648 := rfl
theorem longMin_eq : longMin = -9223372036854775808 := rfl

theorem toInt_int {value : Int} (low : intMin ≤ value) (high : value ≤ JavaClass.intMax) :
    (Int32.ofInt value).toInt = value := by
  rw [intMin_eq] at low
  rw [intMax_eq] at high
  exact Int32.toInt_ofInt_of_le (by omega) (by omega)

theorem toInt_long {value : Int} (low : longMin ≤ value) (high : value ≤ JavaClass.longMax) :
    (Int64.ofInt value).toInt = value := by
  rw [longMin_eq] at low
  rw [longMax_eq] at high
  exact Int64.toInt_ofInt_of_le (by omega) (by omega)

theorem toInt_saturated {value : Int} (low : intMin ≤ value) :
    (saturated value).toInt = min value JavaClass.longMax := by
  have ranges : longMin ≤ intMin ∧ JavaClass.intMax ≤ JavaClass.longMax := by decide
  rw [saturated]
  split
  · rename_i int
    rw [JavaNumber.toInt, toInt_int low int, Int.min_eq_left (by omega)]
  · split
    · rename_i long
      rw [JavaNumber.toInt, toInt_long (by omega) long, Int.min_eq_left long]
    · rw [JavaNumber.toInt, Int64.toInt_maxValue, Int.min_eq_right (by omega), longMax_eq]
      rfl

/-- The literal for a bound is read as a literal, in the range of its type. -/
theorem javaNumber?_boundText {value : Int} (low : intMin ≤ value) {rest : List Char}
    (digit : Stops Char.isDigit rest) (letter : rest.head? ≠ some 'L') :
    javaNumber? ((boundText value).toList ++ rest) = some (saturated value, rest) := by
  have ranges : longMin ≤ intMin := by decide
  have unnamed : ∀ cs : List Char, afterCode? "Long.MAX_VALUE" (value.repr.toList ++ cs) = none := by
    intro cs
    refine afterCode?_eq_none fun rest => ?_
    exact append_ne_cons repr_ne_empty (not_mem_repr (by decide) (by decide))
  rw [boundText, saturated]
  split
  · rename_i int
    rw [Int.toString_eq_repr, javaNumber?, unnamed]
    dsimp only
    rw [signed?_repr value digit, Option.bind_some, if_neg letter, if_pos ⟨low, int⟩]
  · split
    · rename_i long
      have letter : Stops Char.isDigit ('L' :: rest) := by
        rintro c cs ⟨⟩
        rfl
      have chars : (toString value ++ "L").toList ++ rest = value.repr.toList ++ 'L' :: rest := by
        rw [String.toList_append, Int.toString_eq_repr, List.append_assoc]
        rfl
      rw [chars, javaNumber?, unnamed]
      dsimp only
      rw [signed?_repr value letter, Option.bind_some, List.head?_cons, if_pos rfl,
        if_pos ⟨by omega, long⟩, List.tail_cons]
    · rw [javaNumber?, afterCode?_append]

/-! ## Checks -/

/-- A check of a status, with the numbers of a language. -/
inductive Check (Value : Type)
  | equals (expected : Value)
  | between (low high : Value)

/-- How a language writes checks of a status. -/
structure Phrasing (Value : Type) where
  number? : List Char → Option (Value × List Char)
  equals : List Slot
  between : List Slot

/-- The check that a statement makes. -/
def Phrasing.read? {Value : Type} (phrasing : Phrasing Value) (statement : String) :
    Option (Check Value) :=
  match fill? phrasing.number? phrasing.between statement.toList with
  | some [low, high] => some (.between low high)
  | _ => match fill? phrasing.number? phrasing.equals statement.toList with
    | some [expected] => some (.equals expected)
    | _ => none

/-- The checks of a Python module: an equation, and two comparisons that are chained. -/
def pythonPhrasing : Phrasing Int where
  number? := signed?
  equals := [.code "assert ", .code "response.status_code == ", .number]
  between := [.code "assert ", .number, .code " <= response.status_code <= ", .number]

/-- The checks of a Java class: an equation, and two comparisons with a message made of a text, the
status and a text. -/
def javaPhrasing : Phrasing JavaNumber where
  number? := javaNumber?
  equals := [.code "assertEquals(", .number, .code ", response.statusCode());"]
  between := [.code "assertTrue(response.statusCode() >= ", .number,
    .code " && response.statusCode() <= ", .number, .code ", ", .literal,
    .code " + response.statusCode() + ", .literal, .code ");"]

/-- Whether a check of Python passes. -/
def Check.passesPython (status : Int) : Check Int → Bool
  | .equals expected => decide (status = expected)
  | .between low high => decide (low ≤ status) && decide (status ≤ high)

/-- Whether a check of Java passes. -/
def Check.passesJava (status : Int32) : Check JavaNumber → Bool
  | .equals expected => expected.same (.int status)
  | .between low high => low.le (.int status) && (JavaNumber.int status).le high

/-- What a statement of a Python module says of a status, if it checks one. -/
def pythonVerdict? (statement : String) (status : Int) : Option Bool :=
  (pythonPhrasing.read? statement).map (Check.passesPython status)

/-- What a statement of a Java class says of a status, if it checks one. -/
def javaVerdict? (statement : String) (status : Int32) : Option Bool :=
  (javaPhrasing.read? statement).map (Check.passesJava status)

section Reading

variable {Value : Type} {phrasing : Phrasing Value} {statement : String}

theorem Phrasing.read?_between {low high : Value}
    (h : fill? phrasing.number? phrasing.between statement.toList = some [low, high]) :
    phrasing.read? statement = some (.between low high) := by
  rw [Phrasing.read?, h]

theorem Phrasing.read?_equals {expected : Value}
    (other : fill? phrasing.number? phrasing.between statement.toList = none)
    (h : fill? phrasing.number? phrasing.equals statement.toList = some [expected]) :
    phrasing.read? statement = some (.equals expected) := by
  rw [Phrasing.read?, other, h]

end Reading

/-- Code that starts with another character ends a run. -/
theorem stops_ofList {inClass : Char → Bool} {c : Char} {cs rest : List Char}
    (h : inClass c = false) : Stops inClass ((String.ofList (c :: cs)).toList ++ rest) := by
  rw [String.toList_ofList]
  rintro d ds ⟨⟩
  exact h

theorem head?_ofList_append_ne {c d : Char} {cs rest : List Char} (ne : c ≠ d) :
    ((String.ofList (c :: cs)).toList ++ rest).head? ≠ some d := by
  rw [head?_ofList_append]
  exact fun same => ne (Option.some.inj same)

theorem stops_nil (inClass : Char → Bool) : Stops inClass [] := by
  rintro c cs ⟨⟩

theorem pythonRead?_equals (code : Int) :
    pythonPhrasing.read? (assertionLine .python (.statusEquals code)) = some (.equals code) := by
  have number : signed? (code.repr.toList ++ []) = some (code, []) :=
    signed?_repr code (stops_nil _)
  apply Phrasing.read?_equals
  all_goals
    rw [toList_assertionLine]
    simp only [assertionParts, Part.chars, List.flatMap_cons, List.flatMap_nil, pythonPhrasing,
      Int.toString_eq_repr]
  · -- no number follows the keyword
    rw [fill?_code]
    rfl
  · rw [fill?_code, fill?_code, fill?_number number]
    rfl

theorem pythonRead?_between (min max : Int) :
    pythonPhrasing.read? (assertionLine .python (.statusInRange min max)) = some (.between min max) := by
  apply Phrasing.read?_between
  rw [toList_assertionLine]
  simp only [assertionParts, Part.chars, List.flatMap_cons, List.flatMap_nil, pythonPhrasing,
    Int.toString_eq_repr]
  rw [fill?_code, fill?_number (signed?_repr min (stops_ofList rfl)), fill?_code,
    fill?_number (signed?_repr max (stops_nil _))]
  rfl

theorem javaRead?_equals {code : Int} (low : intMin ≤ code) :
    javaPhrasing.read? (assertionLine .java (.statusEquals code)) = some (.equals (saturated code)) := by
  apply Phrasing.read?_equals
  all_goals
    rw [toList_assertionLine]
    simp only [assertionParts, Part.chars, List.flatMap_cons, List.flatMap_nil, javaPhrasing]
  · rw [fill?, afterCode?_eq_none fun rest => ofList_append_ne rfl, Option.bind_none]
  · rw [fill?_code, fill?_number (javaNumber?_boundText low (stops_ofList rfl)
      (head?_ofList_append_ne (by decide))), fill?_code]
    rfl

theorem javaRead?_between {min max : Int} (low : intMin ≤ min) (low' : intMin ≤ max) :
    javaPhrasing.read? (assertionLine .java (.statusInRange min max)) =
      some (.between (saturated min) (saturated max)) := by
  apply Phrasing.read?_between
  rw [toList_assertionLine]
  simp only [assertionParts, Part.chars, List.flatMap_cons, List.flatMap_nil, javaPhrasing]
  rw [fill?_code, fill?_number (javaNumber?_boundText low (stops_ofList rfl)
      (head?_ofList_append_ne (by decide))),
    fill?_code, fill?_number (javaNumber?_boundText low' (stops_ofList rfl)
      (head?_ofList_append_ne (by decide))),
    fill?_code, fill?_literal, fill?_code, fill?_literal, fill?_code]
  rfl

/-- No status comes near the greatest `long`. -/
theorem status_lt_longMax (status : Int32) : status.toInt < JavaClass.longMax := by
  have bound := status.toInt_lt
  rw [longMax_eq]
  omega

theorem passesJava_equals {code : Int} (low : intMin ≤ code) (status : Int32) :
    (Check.equals (saturated code)).passesJava status = decide (status.toInt = code) := by
  have small := status_lt_longMax status
  rw [Check.passesJava, Bool.eq_iff_iff, JavaNumber.same_iff, toInt_saturated low,
    decide_eq_true_iff, JavaNumber.toInt]
  omega

theorem passesJava_between {min max : Int} (low : intMin ≤ min) (low' : intMin ≤ max)
    (status : Int32) : (Check.between (saturated min) (saturated max)).passesJava status =
      decide (min ≤ status.toInt ∧ status.toInt ≤ max) := by
  have small := status_lt_longMax status
  rw [Check.passesJava, Bool.eq_iff_iff, Bool.and_eq_true, JavaNumber.le_iff, JavaNumber.le_iff,
    toInt_saturated low, toInt_saturated low', decide_eq_true_iff, JavaNumber.toInt]
  omega

/-- What the literal for a bound is: an `int`, a `long`, or the name of the greatest `long`. -/
theorem boundText_cases {value : Int} (low : intMin ≤ value) :
    (∃ n, javaNumber? (boundText value).toList = some (.int n, []) ∧ n.toInt = value) ∨
    (∃ n, javaNumber? (boundText value).toList = some (.long n, []) ∧ n.toInt = value) ∨
    (boundText value = "Long.MAX_VALUE" ∧ JavaClass.longMax < value) := by
  have ranges : longMin ≤ intMin := by decide
  have read := javaNumber?_boundText low (stops_nil Char.isDigit) (by decide)
  rw [List.append_nil] at read
  by_cases int : value ≤ JavaClass.intMax
  · rw [saturated, if_pos int] at read
    exact .inl ⟨_, read, toInt_int low int⟩
  · by_cases long : value ≤ JavaClass.longMax
    · rw [saturated, if_neg int, if_pos long] at read
      exact .inr (.inl ⟨_, read, toInt_long (by omega) long⟩)
    · refine .inr (.inr ⟨?_, by omega⟩)
      rw [boundText, if_neg int, if_neg long]

/-! ## Numbers that can be written -/

/-- A number in the range of `long` has few digits. -/
theorem fits_of_le_longMax {value : Int} (low : intMin ≤ value) (high : value ≤ JavaClass.longMax) :
    Fits value := by
  have small : value.natAbs < 10 ^ 19 := by
    rw [intMin_eq] at low
    rw [longMax_eq] at high
    omega
  exact Number.digitCount_le_iff.2
    (Nat.lt_of_lt_of_le small (Nat.pow_le_pow_right (by decide) (by decide)))

theorem not_fits_pow {k : Nat} (h : Number.maxDigits ≤ k) : ¬ Fits (10 ^ k) := by
  rw [Fits, Number.digitCount_le_iff, Int.natAbs_pow, Nat.not_lt]
  exact Nat.pow_le_pow_right (by decide) h

/-- The literal for a bound can always be written: past the range of `long` it has no digits. -/
theorem intLiteral_eq_boundText {value : Int} (low : intMin ≤ value) :
    JavaClass.intLiteral value = .ok (boundText value) := by
  rw [intLiteral_eq, if_pos]
  by_cases high : value ≤ JavaClass.longMax
  · exact .inr (fits_of_le_longMax low high)
  · exact .inl (by omega)

theorem javaEquals_eq {code : Int} (low : intMin ≤ code) :
    assertion .java (.statusEquals code) = .ok (assertionLine .java (.statusEquals code)) := by
  rw [assertion_eq, if_pos]
  by_cases high : code ≤ JavaClass.longMax
  · exact .inr (fits_of_le_longMax low high)
  · exact .inl ⟨rfl, by omega⟩

theorem pythonEquals_eq (code : Int) :
    assertion .python (.statusEquals code) =
      if Fits code then .ok (assertionLine .python (.statusEquals code)) else .error .digits := by
  simp only [assertion_eq, Writable, reduceCtorEq, false_and, false_or]

theorem between_eq (target : Target) (min max : Int) :
    assertion target (.statusInRange min max) =
      if Fits min ∧ Fits max then .ok (assertionLine target (.statusInRange min max))
      else .error .digits :=
  assertion_eq target _

/-! ## Both languages -/

/-- **Status checks mean the same in both languages.** For numbers that are no less than the least
`int`, every literal written for Java is in the range of its type or names the greatest `long`. The
check of a code in Java passes for a status if and only if it is the code. So does the check in Python
if the code has no more digits than are written, and else there is none. The checks of a range are
there in both languages if both bounds have no more digits than that, and in neither language
otherwise, and they pass if and only if the status is in the range. The checks of a program that a text
denotes are there in both languages. -/
theorem status_checks_agree (status : Int32) :
    (∀ value, intMin ≤ value → ∃ written, JavaClass.intLiteral value = .ok written ∧
      ((∃ n, javaNumber? written.toList = some (.int n, []) ∧ n.toInt = value) ∨
        (∃ n, javaNumber? written.toList = some (.long n, []) ∧ n.toInt = value) ∨
        (written = "Long.MAX_VALUE" ∧ JavaClass.longMax < value))) ∧
    (∀ code, intMin ≤ code →
      (∃ check, assertion .java (.statusEquals code) = .ok check ∧
        javaVerdict? check status = some (decide (status.toInt = code))) ∧
      (Fits code → ∃ check, assertion .python (.statusEquals code) = .ok check ∧
        pythonVerdict? check status.toInt = some (decide (status.toInt = code))) ∧
      (¬ Fits code → assertion .python (.statusEquals code) = .error .digits)) ∧
    (∀ min max, intMin ≤ min → intMin ≤ max →
      (Fits min ∧ Fits max → ∃ java python,
        assertion .java (.statusInRange min max) = .ok java ∧
        assertion .python (.statusInRange min max) = .ok python ∧
        javaVerdict? java status = some (decide (min ≤ status.toInt ∧ status.toInt ≤ max)) ∧
        pythonVerdict? python status.toInt =
          some (decide (min ≤ status.toInt ∧ status.toInt ≤ max))) ∧
      (¬ (Fits min ∧ Fits max) → ∀ target,
        assertion target (.statusInRange min max) = .error .digits)) ∧
    ∀ source program, parse source = .ok program → ∀ test ∈ program.tests,
      ∀ node ∈ test.assertions, ∀ target, ∃ check, assertion target node = .ok check := by
  refine ⟨?_, ?_, ?_, ?_⟩
  · intro value low
    exact ⟨_, intLiteral_eq_boundText low, boundText_cases low⟩
  · intro code low
    refine ⟨⟨_, javaEquals_eq low, ?_⟩, ?_, ?_⟩
    · rw [javaVerdict?, javaRead?_equals low, Option.map_some, passesJava_equals low]
    · intro fits
      refine ⟨_, by rw [pythonEquals_eq, if_pos fits], ?_⟩
      rw [pythonVerdict?, pythonRead?_equals, Option.map_some, Check.passesPython]
    · intro long
      rw [pythonEquals_eq, if_neg long]
  · intro min max low low'
    constructor
    · intro fits
      refine ⟨_, _, by rw [between_eq, if_pos fits], by rw [between_eq, if_pos fits], ?_, ?_⟩
      · rw [javaVerdict?, javaRead?_between low low', Option.map_some, passesJava_between low low']
      · rw [pythonVerdict?, pythonRead?_between, Option.map_some, Check.passesPython,
          ← Bool.decide_and]
    · intro long target
      rw [between_eq, if_neg long]
  · intro source program parsed test test_mem node node_mem target
    have writable := allWritable_of_parse parsed target test test_mem node node_mem
    exact ⟨_, by rw [assertion_eq, if_pos writable]⟩

/-- A code past the range of `long`, which no status has, and a range from the least `int` to a number
past the range of `int`, in which every status is. -/
theorem status_checks_agree_past_bounds :
    assertion .java (.statusEquals 9223372036854775808) =
      .ok "assertEquals(Long.MAX_VALUE, response.statusCode());" ∧
    javaVerdict? "assertEquals(Long.MAX_VALUE, response.statusCode());" Int32.maxValue = some false ∧
    ∃ java python,
      assertion .java (.statusInRange (-2147483648) 2147483648) = .ok java ∧
      assertion .python (.statusInRange (-2147483648) 2147483648) = .ok python ∧
      javaVerdict? java Int32.minValue = some true ∧
      pythonVerdict? python (-2147483648) = some true := by
  obtain ⟨-, equals, -⟩ := status_checks_agree Int32.maxValue
  obtain ⟨-, -, between, -⟩ := status_checks_agree Int32.minValue
  have written : assertion .java (.statusEquals 9223372036854775808) =
      .ok "assertEquals(Long.MAX_VALUE, response.statusCode());" := by
    rw [javaEquals_eq (by decide)]
    exact congrArg Except.ok (by decide)
  obtain ⟨⟨check, made, high⟩, -⟩ := equals 9223372036854775808 (by decide)
  obtain rfl := Except.ok.inj (made.symm.trans written)
  exact ⟨written, high, (between (-2147483648) 2147483648 (by decide) (by decide)).1
    ⟨by decide, by decide⟩⟩

/-- A number of one digit too many has no check in Python, and as a bound none in either language. No
text denotes it. -/
theorem status_check_past_digits :
    let n : Int := 10 ^ Number.maxDigits
    intMin ≤ n ∧ assertion .python (.statusEquals n) = .error .digits ∧
      (∀ target, assertion target (.statusInRange 0 n) = .error .digits) ∧
      ∀ source program, parse source = .ok program → ∀ test ∈ program.tests,
        .statusEquals n ∉ test.assertions := by
  intro n
  have long : ¬ Fits n := not_fits_pow le_rfl
  have low : intMin ≤ n := Int.le_trans (by decide) (Int.pow_nonneg (by decide))
  refine ⟨low, ?_, ?_, ?_⟩
  · rw [pythonEquals_eq, if_neg long]
  · intro target
    rw [between_eq, if_neg fun both => long both.2]
  · intro source program parsed test test_mem node_mem
    have writable := allWritable_of_parse parsed .python test test_mem _ node_mem
    simp only [Writable, reduceCtorEq, false_and, false_or] at writable
    exact long writable

end HttpSuite.Emit
