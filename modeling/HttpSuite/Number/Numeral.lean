import HttpSuite.Text.Blank
import HttpSuite.Text.DecimalDigit
import HttpSuite.Text.Hex

/-!
# Integer numerals

Two readings of an integer from a text. A numeral of a given base has blanks around it, an optional
sign, the mark of its base, and digits of any script with single underscores between them. A loose
value is first read strictly, as a minus and digits without superfluous zeros; failing that it is
tidied (blanks, a plus, leading zeros, a fraction of zeros, underscores) and read strictly again.

- `ofNumeral`: the integer that a numeral of a base denotes.
- `ofLooseText`: the integer that a loose value's text denotes.
-/

namespace HttpSuite.Number

/-- Why a text is no integer. -/
inductive NumeralFault
  | malformed
  | tooLong (digits : Nat)
  deriving DecidableEq, Repr

/-- The greatest number of digits that is read or written. -/
def maxDigits : Nat := 4300

/-- The number of decimal digits. -/
def digitCount (n : Nat) : Nat :=
  (Nat.toDigits 10 n).length

/-- The number that a run of digits denotes in a base. -/
def valueIn (base : Nat) (digits : List Char) : Nat :=
  digits.foldl (fun value c => base * value + (Text.hexValue? c).getD 0) 0

/-- The number that a run of decimal digits denotes. -/
def digitsValue (digits : List Char) : Nat :=
  valueIn 10 digits

/-- A digit of a base up to sixteen. -/
def isDigitOf (base : Nat) (c : Char) : Bool :=
  (Text.hexValue? c).any (· < base)

/-- Digits of a base, with single underscores between digits. -/
def isGrouped (base : Nat) : List Char → Bool
  | [] => false
  | [c] => isDigitOf base c
  | c :: '_' :: d :: rest => isDigitOf base c && isGrouped base (d :: rest)
  | c :: rest => isDigitOf base c && isGrouped base rest

/-- Split off an optional sign: whether it was a minus, and the rest. -/
def splitSign : List Char → Bool × List Char
  | '-' :: cs => (true, cs)
  | '+' :: cs => (false, cs)
  | cs => (false, cs)

/-- A number with a sign. -/
def signed (negative : Bool) (n : Nat) : Int :=
  if negative then -(n : Int) else n

/-- ASCII white space. -/
def isAsciiSpace (c : Char) : Bool :=
  c == ' ' || ('\t' ≤ c && c ≤ '\r')

/-- One character of a numeral in its ASCII form: digits and blanks of other scripts become ASCII
ones, and anything else beyond ASCII a character that no numeral holds. -/
def asciiNumeralChar (c : Char) : Char :=
  if c.toNat < 0x7f then c
  else if Text.isWhiteSpace c then ' '
  else match Text.decimalValue? c with
    | some value => Char.ofNat (0x30 + value)
    | none => '?'

/-- The letter that may stand between a zero and the digits of a base. -/
def baseLetter? : Nat → Option Char
  | 2 => some 'b'
  | 8 => some 'o'
  | 16 => some 'x'
  | _ => none

/-- Drop the mark of a base: a zero, the letter of the base, and one underscore after it. -/
def dropBaseMark (base : Nat) : List Char → List Char
  | '0' :: letter :: rest =>
    if baseLetter? base == some letter.toLower then
      if rest.head? = some '_' then rest.drop 1 else rest
    else '0' :: letter :: rest
  | cs => cs

/-- The integer that a numeral of a base denotes. Too many decimal digits are reported before anything
that may follow them; the other bases have no limit. -/
def ofNumeral (base : Nat) (text : String) : Except NumeralFault Int :=
  let cs := (text.toList.map asciiNumeralChar).dropWhile isAsciiSpace
  let (negative, cs) := splitSign cs
  let cs := dropBaseMark base cs
  let isBody (c : Char) : Bool := isDigitOf base c || c == '_'
  let body := cs.takeWhile isBody
  let rest := cs.dropWhile isBody
  let digits := body.filter (isDigitOf base)
  if !isGrouped base body then .error .malformed
  else if base == 10 && maxDigits < digits.length then .error (.tooLong digits.length)
  else if rest.all isAsciiSpace then .ok (signed negative (valueIn base digits))
  else .error .malformed

/-- Whether two underscores stand side by side. -/
def hasDoubleUnderscore : List Char → Bool
  | '_' :: '_' :: _ => true
  | _ :: rest => hasDoubleUnderscore rest
  | [] => false

/-- A text without its underscores, if it has some, none at either end and no two together. -/
def ungrouped? (cs : List Char) : Option (List Char) :=
  if cs.contains '_' && cs.head? != some '_' && cs.getLast? != some '_' && !hasDoubleUnderscore cs then
    some (cs.filter (· != '_'))
  else none

/-- The strict reading: an optional minus, and `0` or digits that do not start with a zero. Too many
digits are reported before anything that may follow them. -/
def ofStrictText (cs : List Char) : Except NumeralFault Int :=
  let negative := cs.head? = some '-'
  let body := if negative then cs.drop 1 else cs
  let digits := body.takeWhile Char.isDigit
  if digits.isEmpty then .error .malformed
  else if digits.head? = some '0' && 1 < digits.length then .error .malformed
  else if maxDigits < digits.length then .error (.tooLong digits.length)
  else if (body.dropWhile Char.isDigit).isEmpty then .ok (signed negative (digitsValue digits))
  else .error .malformed

/-- A digit from 1 to 9. -/
def isNonzeroDigit (c : Char) : Bool :=
  '1' ≤ c && c ≤ '9'

/-- What a text is without its leading zeros, of which `last` and the underscores among them were
passed: it starts at the first other digit or minus, with the last zero if a point follows it, and is
the last character passed if nothing follows. -/
def afterZeros? (last : Char) : List Char → Option (List Char)
  | [] => some [last]
  | c :: rest =>
    if c == '0' || c == '_' then afterZeros? c rest
    else if isNonzeroDigit c || c == '-' then some (c :: rest)
    else if c == '.' then some (last :: c :: rest)
    else none

/-- A text without its leading zeros, which must start with a digit. -/
def dropLeadingZeros? : List Char → Option (List Char)
  | [] => none
  | c :: rest =>
    if c == '0' then afterZeros? c rest
    else if isNonzeroDigit c then some (c :: rest)
    else none

/-- A text without a point and the zeros after it. -/
def dropZeroFraction (cs : List Char) : List Char :=
  let fraction := (cs.dropWhile (· != '.')).drop 1
  if !fraction.isEmpty && fraction.all (· == '0') then cs.takeWhile (· != '.') else cs

/-- A loose text in strict form: trimmed, without a plus, leading zeros, a fraction of zeros and
underscores. -/
def tidied? (cs : List Char) : Option (List Char) :=
  let cs := Text.trim Text.isWhiteSpace cs
  let (negative, cs) := splitSign cs
  (dropLeadingZeros? cs).map fun cs =>
    let cs := dropZeroFraction cs
    let cs := (ungrouped? cs).getD cs
    if negative then '-' :: cs else cs

/-- The integer that a loose value's text denotes. Only the strict reading tells too many digits from
other faults. -/
def ofLooseText (text : String) : Except NumeralFault Int :=
  match ofStrictText text.toList with
  | .error .malformed =>
    match (tidied? text.toList).map ofStrictText with
    | some (.ok value) => .ok value
    | _ => .error .malformed
  | result => result

end HttpSuite.Number
