import HttpSuite.Number.Binary64

/-!
# Decimal text of doubles

A double is written with the fewest digits that read back as the same double and, among those, the
digits nearest to it. Where the point stands and when an exponent is written is a `Layout`, chosen by
whoever writes the number.

- `shortest`: the digits and their power of ten.
- `Layout.text`: the digits laid out.
-/

namespace HttpSuite.Number

/-- The decimal exponent of a positive fraction: the power of ten of its first digit. -/
def decimalExponent (num den : Nat) : Int :=
  let guess : Int := (digitCount num : Int) - digitCount den
  if den * Nat.pow 10 guess.toNat ≤ num * Nat.pow 10 (-guess).toNat then guess else guess - 1

/-- The two factors that compare mantissas with decimals: `m` · 2^`e` is to `c` · 10^`p` as `m` times
the first is to `c` times the second. -/
def gridFactors (exponent grid : Int) : Nat × Nat :=
  (Nat.pow 2 exponent.toNat * Nat.pow 10 (-grid).toNat,
    Nat.pow 2 (-exponent).toNat * Nat.pow 10 grid.toNat)

/-- Whether `c` · 10^`grid` rounds to the double `mantissa` · 2^`exponent`: it lies between the points
halfway to the neighbours, which belong to the double with the even mantissa. Below a power of two the
neighbour is half as far. -/
def roundsTo (mantissa : Nat) (exponent grid : Int) (c : Nat) : Bool :=
  let (binary, decimal) := gridFactors exponent grid
  let gap := if mantissa = Nat.pow 2 52 && Binary64.minExponent < exponent then 1 else 2
  let point := 4 * c * decimal
  let low := (4 * mantissa - gap) * binary
  let high := (4 * mantissa + 2) * binary
  if mantissa % 2 = 0 then low ≤ point && point ≤ high else low < point && point < high

/-- The nearest decimal on a grid that rounds to a double, if one does. -/
def onGrid? (mantissa : Nat) (exponent grid : Int) : Option Nat :=
  let (binary, decimal) := gridFactors exponent grid
  let below := mantissa * binary / decimal
  let above := below + 1
  match roundsTo mantissa exponent grid below, roundsTo mantissa exponent grid above with
  | true, true =>
    let toBelow := mantissa * binary - below * decimal
    let toAbove := above * decimal - mantissa * binary
    if toBelow < toAbove || (toBelow == toAbove && below % 2 == 0) then some below else some above
  | true, false => some below
  | false, true => some above
  | false, false => none

/-- Drop trailing zeros of a number, at most `fuel` of them, and count them in the exponent. -/
def dropZeros : Nat → Nat → Int → Nat × Int
  | 0, digits, exponent => (digits, exponent)
  | fuel + 1, digits, exponent =>
    if digits % 10 = 0 then dropZeros fuel (digits / 10) (exponent + 1) else (digits, exponent)

/-- The fewest digits that read back as the positive double `mantissa` · 2^`exponent`, and the power
of ten of the last one. Seventeen digits always do. -/
def shortest (mantissa : Nat) (exponent : Int) : Nat × Int :=
  let (num, den) := Binary64.ratio mantissa exponent
  let top := decimalExponent num den
  let found := (List.range 17).findSome? fun (extra : Nat) =>
    let grid := top - (extra : Int)
    (onGrid? mantissa exponent grid).map fun digits => (digits, grid)
  let (digits, grid) := found.getD (mantissa, exponent)
  dropZeros 17 digits grid

/-- How the digits of a number are laid out. -/
structure Layout where
  /-- The least exponent of the first digit that is written without an exponent part. -/
  leastPositional : Int
  /-- The greatest such exponent. -/
  greatestPositional : Int
  /-- The least number of digits of an exponent part. -/
  exponentDigits : Nat
  infinity : String
  negativeInfinity : String
  notANumber : String

/-- An exponent part: a sign and at least `width` digits. -/
def exponentPart (width : Nat) (exponent : Int) : String :=
  let digits := Nat.toDigits 10 exponent.natAbs
  "e" ++ (if exponent < 0 then "-" else "+") ++
    String.ofList (List.replicate (width - digits.length) '0' ++ digits)

/-- Digits with the power of ten of the last one, with a point but no exponent part. -/
def positional (digits : List Char) (exponent : Int) : List Char :=
  if 0 ≤ exponent then digits ++ List.replicate exponent.toNat '0' ++ ['.', '0']
  else
    let places := exponent.natAbs
    let padded := List.replicate (places + 1 - digits.length) '0' ++ digits
    let whole := padded.length - places
    padded.take whole ++ '.' :: padded.drop whole

/-- Digits with the power of ten of the first one, in front of an exponent part. -/
def scientific (digits : List Char) : List Char :=
  match digits with
  | first :: [] => [first]
  | first :: rest => first :: '.' :: rest
  | [] => []

/-- The text of a double. -/
def Layout.text (layout : Layout) : Binary64 → String
  | .nan => layout.notANumber
  | .infinite negative => if negative then layout.negativeInfinity else layout.infinity
  | .finite negative mantissa exponent =>
    let sign := if negative then "-" else ""
    if mantissa = 0 then sign ++ "0.0"
    else
      let (number, last) := shortest mantissa exponent
      let digits := Nat.toDigits 10 number
      let first := last + (digits.length : Int) - 1
      if layout.leastPositional ≤ first && first ≤ layout.greatestPositional then
        sign ++ String.ofList (positional digits last)
      else sign ++ String.ofList (scientific digits) ++
        exponentPart layout.exponentDigits first

/-- Settings and generated code write numbers from 0.0001 up to below 10^16 in full. -/
def plain : Layout where
  leastPositional := -4
  greatestPositional := 15
  exponentDigits := 2
  infinity := "inf"
  negativeInfinity := "-inf"
  notANumber := "nan"

/-- Settings shown as JSON write numbers from 0.00001 on in full, and have no infinities. -/
def json : Layout where
  leastPositional := -5
  greatestPositional := 15
  exponentDigits := 1
  infinity := "null"
  negativeInfinity := "null"
  notANumber := "null"

end HttpSuite.Number
