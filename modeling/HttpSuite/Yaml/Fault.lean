import HttpSuite.Yaml.Moment

/-!
# Faults of documents

Why a text has no value. Most faults are not told apart; those that concern a single scalar keep what
they found.
-/

namespace HttpSuite.Yaml

/-- Why a text has no value. -/
inductive Fault
  /-- The text is not one document, or a tag does not fit its node. -/
  | malformed
  /-- The text ends within something. -/
  | unfinished
  /-- An escape for a code point beyond the last one. -/
  | noCharacter (point : Nat)
  /-- No integer of a base, as it is shown. -/
  | notInteger (base : Nat) (shown : String)
  | tooManyDigits (count : Nat)
  /-- An integer or decimal without a first character. -/
  | emptyNumber
  | notDecimal (shown : String)
  /-- A decimal in base sixty with a place whose weight is too large. -/
  | tooLarge
  | notBoolean (shown : String)
  | notMoment
  /-- A moment is asked for where a collection stands. -/
  | momentOfCollection
  | calendar (fault : CalendarFault)
  /-- Collections within collections beyond the greatest depth, or a default value that is its own
  default value. -/
  | tooDeep
  deriving DecidableEq, Repr

/-- The greatest number that is taken for a code point at all. -/
def maxPoint : Nat := 0x7fffffff

/-- The longest quotation of a text that is no integer. -/
def maxQuoted : Nat := 200

/-- The wording of a fault that has one. -/
def Fault.message : Fault → String
  | .malformed | .unfinished => ""
  | .noCharacter point =>
    if point ≤ maxPoint then "chr() arg not in range(0x110000)"
    else "Python int too large to convert to C int"
  | .notInteger base shown =>
    "invalid literal for int() with base " ++ toString base ++ ": " ++
      String.ofList (shown.toList.take maxQuoted)
  | .tooManyDigits count =>
    "Exceeds the limit (" ++ toString Number.maxDigits ++
      " digits) for integer string conversion: value has " ++ toString count ++
      " digits; use sys.set_int_max_str_digits() to increase the limit"
  | .emptyNumber => "string index out of range"
  | .notDecimal shown => "could not convert string to float: " ++ shown
  | .tooLarge => "int too large to convert to float"
  | .notBoolean shown => shown
  | .notMoment => "'NoneType' object has no attribute 'groupdict'"
  | .momentOfCollection => "expected string or bytes-like object, got 'list'"
  | .calendar fault => fault.message
  | .tooDeep => "maximum recursion depth exceeded"

/-- A result or the general fault. -/
def orMalformed {α : Type} : Option α → Except Fault α
  | some value => .ok value
  | none => .error .malformed

end HttpSuite.Yaml
