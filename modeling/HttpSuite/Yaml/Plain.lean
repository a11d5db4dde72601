import HttpSuite.Text.Shown
import HttpSuite.Yaml.Moment
import HttpSuite.Yaml.Tag

/-!
# What plain scalars are

A plain scalar has no tag of its own: its form decides whether it is a number, a boolean, nothing, a
time or a text.
-/

namespace HttpSuite.Yaml

/-- The words for true and false, each in three spellings. -/
def booleans : List (String × Bool) :=
  [("yes", true), ("no", false), ("true", true), ("false", false), ("on", true), ("off", false)]

/-- A word in small letters, with a capital first letter, and in capitals. -/
def spellings (word : String) : List String :=
  [word, word.capitalize, String.ofList (word.toList.map Char.toUpper)]

/-- A text without its sign. -/
def unsigned (cs : List Char) : List Char :=
  if first cs == '-' || first cs == '+' then cs.drop 1 else cs

/-- Digits of a class and underscores, at least one. -/
def isRun (digit : Char → Bool) (cs : List Char) : Bool :=
  !cs.isEmpty && cs.all fun c => digit c || c == '_'

/-- Digits and underscores, of which the first is a digit of a class. -/
def isDigits (leading : Char → Bool) (cs : List Char) : Bool :=
  leading (first cs) && cs.all fun c => c.isDigit || c == '_'

/-- A digit other than zero. -/
def isLeading (c : Char) : Bool := c.isDigit && c != '0'

/-- Split a text at every colon. -/
def splitColons (cs : List Char) : List (List Char) :=
  cs.foldr (fun c parts =>
    if c == ':' then [] :: parts
    else match parts with
      | [] => [[c]]
      | part :: rest => (c :: part) :: rest) [[]]

/-- A count of minutes or seconds: a number below sixty. -/
def isSixtieth : List Char → Bool
  | [a] => a.isDigit
  | [a, b] => '0' ≤ a && a ≤ '5' && b.isDigit
  | _ => false

/-- A number in base sixty, with colons: the first part may be large. -/
def isSexagesimal (leading : Char → Bool) (cs : List Char) : Bool :=
  match splitColons cs with
  | head :: part :: rest => isDigits leading head && (part :: rest).all isSixtieth
  | _ => false

/-- The form of an integer. -/
def isInteger (text : List Char) : Bool :=
  let cs := unsigned text
  match cs with
  | '0' :: 'b' :: digits => isRun (fun c => c == '0' || c == '1') digits
  | '0' :: 'x' :: digits => isRun (fun c => (Text.hexValue? c).isSome) digits
  | ['0'] => true
  | '0' :: digits => isRun (fun c => '0' ≤ c && c ≤ '7') digits
  | _ => isDigits isLeading cs || isSexagesimal isLeading cs

/-- The exponent part of a decimal: nothing, or a letter, a sign and digits. -/
def isExponent : List Char → Bool
  | [] => true
  | e :: sign :: digits =>
    (e == 'e' || e == 'E') && (sign == '-' || sign == '+') && !digits.isEmpty &&
      digits.all Char.isDigit
  | _ => false

/-- What follows the point of a decimal. -/
def isFraction (cs : List Char) : Bool :=
  isExponent (cs.dropWhile fun c => c.isDigit || c == '_')

/-- The form of a decimal: a number needs a point to be one. -/
def isDecimal (text : List Char) : Bool :=
  let cs := unsigned text
  let whole := cs.takeWhile (· != '.')
  let fraction := (cs.dropWhile (· != '.')).drop 1
  if !cs.contains '.' then false
  else if whole.isEmpty then
    (first text == '.' && (first fraction).isDigit && isFraction fraction) ||
      ["inf", "Inf", "INF"].contains (String.ofList fraction) ||
      (first text == '.' && ["nan", "NaN", "NAN"].contains (String.ofList fraction))
  else
    (isDigits Char.isDigit whole && isFraction fraction) ||
      (isSexagesimal Char.isDigit whole && fraction.all fun c => c.isDigit || c == '_')

/-! ## Tags -/

/-- A text without a line feed at its end. -/
def withoutFinalBreak (cs : List Char) : List Char :=
  if cs.getLast? = some '\n' then cs.dropLast else cs

/-- The tag of a text that is not empty, by its form. -/
def Tag.ofForm (cs : List Char) : Tag :=
  let text := String.ofList cs
  if (booleans.flatMap fun (word, _) => spellings word).contains text then .bool
  else if isDecimal cs then .float
  else if isInteger cs then .int
  else if text == "<<" then .merge
  else if text == "~" || (spellings "null").contains text then .null
  else if (MomentParts.read? cs).any MomentParts.isEvident then .time
  else if text == "=" then .default
  else if text == "!" || text == "&" || text == "*" then .unknown
  else .text

/-- The tag of a scalar without one: by its form, in which one line feed at the end does not count.
What is no proper text has no other form. -/
def Tag.ofPlain (points : List Nat) : Tag :=
  let cs := Text.charsOfPoints points
  if cs.isEmpty then .null
  else if points.all fun n => n.isValidChar then .ofForm (withoutFinalBreak cs)
  else .text

end HttpSuite.Yaml
