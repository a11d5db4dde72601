import HttpSuite.Number.Numeral

/-!
# Double-precision numbers

A double is kept exactly, as a sign, a mantissa and a power of two, or as an infinity or not-a-number.
Finite ones are canonical: the mantissa has at most 53 bits, the exponent is at least -1074, and the
mantissa has fewer than 53 bits only at that least exponent. Every operation computes in whole numbers
and rounds once, to the nearest and halves to even.

- `Binary64.ofRatio`: the double nearest to a fraction.
- `Binary64.ofDecimal`: the double nearest to digits times a power of ten.
- `Binary64.add`, `Binary64.mul`: the double nearest to a sum or product.
- `Binary64.ofNumeral?`, `Binary64.ofLooseText?`: the double that a text denotes.
-/

namespace HttpSuite.Number

/-- A double-precision number; `finite negative m e` is ±`m` · 2^`e`. -/
inductive Binary64
  | finite (negative : Bool) (mantissa : Nat) (exponent : Int)
  | infinite (negative : Bool)
  | nan
  deriving DecidableEq, Repr

/-- The quotient rounded to the nearest whole number, halves to even. -/
def roundDiv (num den : Nat) : Nat :=
  let quotient := num / den
  let remainder := num % den
  if 2 * remainder > den || (2 * remainder == den && quotient % 2 == 1) then quotient + 1
  else quotient

/-- A fraction divided by a power of two, as a fraction. -/
def scaleDown (num den : Nat) (exponent : Int) : Nat × Nat :=
  (num * Nat.pow 2 (-exponent).toNat, den * Nat.pow 2 exponent.toNat)

namespace Binary64

/-- The least exponent. -/
def minExponent : Int := -1074

/-- The greatest exponent. -/
def maxExponent : Int := 971

/-- Zero with a sign. -/
def zero (negative : Bool) : Binary64 := .finite negative 0 minExponent

/-- Whether the whole part of a fraction divided by a power of two has more than 53 bits. -/
def isWide (num den : Nat) (exponent : Int) : Bool :=
  let (n, d) := scaleDown num den exponent
  Nat.pow 2 53 ≤ n / d

/-- The exponent at which a positive fraction has a mantissa of 53 bits, or the least exponent. -/
def exponentOf (num den : Nat) : Int :=
  let low : Int := (Nat.log2 num : Int) - Nat.log2 den - 53
  max minExponent (if isWide num den low then low + 1 else low)

/-- The double nearest to a fraction with a positive denominator. -/
def ofRatio (negative : Bool) (num den : Nat) : Binary64 :=
  if num = 0 then zero negative
  else
    let exponent := exponentOf num den
    let (n, d) := scaleDown num den exponent
    let mantissa := roundDiv n d
    let (mantissa, exponent) :=
      if mantissa = Nat.pow 2 53 then (Nat.pow 2 52, exponent + 1) else (mantissa, exponent)
    if maxExponent < exponent then .infinite negative else .finite negative mantissa exponent

/-- The double nearest to an integer. -/
def ofInt (n : Int) : Binary64 :=
  ofRatio (n < 0) n.natAbs 1

/-- The double nearest to `digits` · 10^`exponent`. Values far outside the range are settled by their
size alone. -/
def ofDecimal (negative : Bool) (digits : Nat) (exponent : Int) : Binary64 :=
  let magnitude := ((Nat.toDigits 10 digits).length : Int) + exponent
  if digits = 0 || magnitude < -330 then zero negative
  else if 310 < magnitude then .infinite negative
  else ofRatio negative (digits * Nat.pow 10 exponent.toNat) (Nat.pow 10 (-exponent).toNat)

/-- Whether a double is finite. -/
def isFinite : Binary64 → Bool
  | .finite .. => true
  | _ => false

/-- Finite doubles as fractions: sign, numerator and denominator. -/
def ratio (mantissa : Nat) (exponent : Int) : Nat × Nat :=
  (mantissa * Nat.pow 2 exponent.toNat, Nat.pow 2 (-exponent).toNat)

/-- Whether a double is below zero or the negative zero. -/
def isNegative : Binary64 → Bool
  | .finite negative .. => negative
  | .infinite negative => negative
  | .nan => false

/-- Whether a double is a zero. -/
def isZero : Binary64 → Bool
  | .finite _ mantissa _ => mantissa = 0
  | _ => false

/-- The double with the other sign. -/
def negate : Binary64 → Binary64
  | .finite negative mantissa exponent => .finite (!negative) mantissa exponent
  | .infinite negative => .infinite (!negative)
  | .nan => .nan

/-- The product of two doubles; nothing times infinity is not a number. -/
def mul : Binary64 → Binary64 → Binary64
  | .finite negative mantissa exponent, .finite negative' mantissa' exponent' =>
    let (num, den) := ratio mantissa exponent
    let (num', den') := ratio mantissa' exponent'
    ofRatio (negative != negative') (num * num') (den * den')
  | .nan, _ => .nan
  | _, .nan => .nan
  | x, y => if x.isZero || y.isZero then .nan else .infinite (x.isNegative != y.isNegative)

/-- The sum of two doubles; infinities of different signs have none. -/
def add : Binary64 → Binary64 → Binary64
  | .finite negative mantissa exponent, .finite negative' mantissa' exponent' =>
    let (num, den) := ratio mantissa exponent
    let (num', den') := ratio mantissa' exponent'
    let sum := signed negative (num * den') + signed negative' (num' * den)
    if sum = 0 then zero (negative && negative')
    else ofRatio (sum < 0) sum.natAbs (den * den')
  | .nan, _ => .nan
  | _, .nan => .nan
  | .infinite negative, .infinite negative' =>
    if negative == negative' then .infinite negative else .nan
  | .infinite negative, _ => .infinite negative
  | _, .infinite negative => .infinite negative

/-- The whole part of a finite double, toward zero. -/
def truncate (negative : Bool) (mantissa : Nat) (exponent : Int) : Int :=
  let (num, den) := ratio mantissa exponent
  signed negative (num / den)

/-- The whole number that a finite double is, if it is one. -/
def whole? : Binary64 → Option Int
  | .finite negative mantissa exponent =>
    let (num, den) := ratio mantissa exponent
    if num % den = 0 then some (signed negative (num / den)) else none
  | _ => none

/-- Split a text into lower-case characters of ASCII letters. -/
def lowered (cs : List Char) : List Char :=
  cs.map Char.toLower

/-- The exponent part of a decimal: nothing, or `e`, an optional sign and digits. -/
def exponentOfText? : List Char → Option Int
  | [] => some 0
  | c :: cs =>
    let (negative, digits) := splitSign cs
    if (c == 'e' || c == 'E') && !digits.isEmpty && digits.all Char.isDigit then
      some (signed negative (digitsValue digits))
    else none

/-- An unsigned decimal: digits with an optional point, at least one digit, and an optional
exponent. -/
def decimalOfText? (negative : Bool) (cs : List Char) : Option Binary64 :=
  let whole := cs.takeWhile Char.isDigit
  let afterWhole := cs.dropWhile Char.isDigit
  let (fraction, rest) :=
    if afterWhole.head? = some '.' then
      ((afterWhole.drop 1).takeWhile Char.isDigit, (afterWhole.drop 1).dropWhile Char.isDigit)
    else ([], afterWhole)
  if whole.isEmpty && fraction.isEmpty then none
  else (exponentOfText? rest).map fun exponent =>
    ofDecimal negative (digitsValue (whole ++ fraction)) (exponent - fraction.length)

/-- The double that a bare text denotes: a decimal, an infinity or not-a-number, with an optional
sign. -/
def ofBareText? (cs : List Char) : Option Binary64 :=
  let (negative, cs) := splitSign cs
  let name := String.ofList (lowered cs)
  if name == "inf" || name == "infinity" then some (.infinite negative)
  else if name == "nan" then some .nan
  else decimalOfText? negative cs

/-- The double that a numeral denotes, with blanks around it and digits of any script. -/
def ofNumeral? (text : String) : Option Binary64 :=
  ofBareText? (Text.trim isAsciiSpace (text.toList.map asciiNumeralChar))

/-- The double that a loose value's text denotes: blanks around it are dropped or else, if that does
not read, single underscores within it. -/
def ofLooseText? (text : String) : Option Binary64 :=
  let cs := text.toList
  ofBareText? (Text.trim Text.isWhiteSpace cs) <|> (ungrouped? cs).bind ofBareText?

end Binary64

end HttpSuite.Number
