import HttpSuite.Number.Numeral
import HttpSuite.Text.RawText

/-!
# What cannot be generated

An integer that is written in decimal has at most as many digits as one that is read, so that a check
of a longer one cannot be written. A class also needs a timeout with a whole number of milliseconds, and
a name.
-/

namespace HttpSuite.Emit

/-- Why a timeout is no number of milliseconds. -/
inductive TimeoutFault
  | infinite
  | notANumber
  deriving DecidableEq, Repr

/-- The wording of a timeout fault. -/
def TimeoutFault.message : TimeoutFault → String
  | .infinite => "cannot convert float infinity to integer"
  | .notANumber => "cannot convert float NaN to integer"

/-- Why a file cannot be generated. -/
inductive Failure
  /-- An integer has too many digits. -/
  | digits
  | timeout (fault : TimeoutFault)
  /-- The output's name, and its stem, which is no class name. -/
  | className (outputName stem : RawText)
  deriving DecidableEq, Repr

/-- The wording for an integer with too many digits. -/
def digitsMessage : String :=
  "Exceeds the limit (" ++ toString Number.maxDigits ++ " digits) for integer string conversion; " ++
    "use sys.set_int_max_str_digits() to increase the limit"

/-- An integer in decimal. Its sign is no digit. -/
def decimal (value : Int) : Except Failure String :=
  if Number.maxDigits < Number.digitCount value.natAbs then .error .digits else .ok (toString value)

end HttpSuite.Emit
