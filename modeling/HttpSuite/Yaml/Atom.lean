import HttpSuite.Data
import HttpSuite.Number.Binary64
import HttpSuite.Text.Base64
import HttpSuite.Text.LowerCase
import HttpSuite.Yaml.Node

/-!
# What scalars denote

The value of a scalar follows from its tag and its text. A mapping stands in for a scalar if it has a
default value.

- `Graph.atom`: the value of a scalar node.
- `Atom.same`: whether two values are the same key.
-/

namespace HttpSuite.Yaml

/-- The value of a scalar. -/
inductive Atom
  | null
  | bool (value : Bool)
  | int (value : Int)
  /-- A number and the node it comes from; the common not-a-number comes from none. -/
  | float (value : Number.Binary64) (source : Option Nat)
  | text (points : List Nat)
  | bytes (value : List UInt8)
  | moment (value : Moment)
  deriving DecidableEq, Repr

/-! ## Numbers -/

/-- Split a text at every colon. -/
def splitPoints (points : List Nat) : List (List Nat) :=
  points.foldr (fun n parts =>
    if n == ':'.toNat then [] :: parts
    else match parts with
      | [] => [[n]]
      | part :: rest => (n :: part) :: rest) [[]]

/-- A text without underscores. -/
def withoutUnderscores (points : List Nat) : List Nat :=
  points.filter (· != '_'.toNat)

/-- Split off an optional sign: whether it was a minus, and the rest. -/
def splitSignPoint (points : List Nat) : Bool × List Nat :=
  if points.head? = some '-'.toNat then (true, points.drop 1)
  else if points.head? = some '+'.toNat then (false, points.drop 1)
  else (false, points)

/-- The integer of a base that a text denotes. -/
def integerIn (base : Nat) (points : List Nat) : Except Fault Int :=
  match Number.ofNumeral base (String.ofList (Text.charsOfPoints points)) with
  | .ok value => .ok value
  | .error .malformed => .error (.notInteger base (Text.shown (points.map .ofNat)))
  | .error (.tooLong digits) => .error (.tooManyDigits digits)

/-- The value of digits in base sixty. -/
def inSixties (digits : List Int) : Int :=
  digits.foldl (fun value digit => 60 * value + digit) 0

/-- The value of an integer without sign and underscores. -/
def unsignedInteger (points : List Nat) : Except Fault Int :=
  match Text.charsOfPoints points with
  | [] => .error .emptyNumber
  | '0' :: 'b' :: _ => integerIn 2 (points.drop 2)
  | '0' :: 'x' :: _ => integerIn 16 (points.drop 2)
  | '0' :: _ => integerIn 8 points
  | cs =>
    if cs.contains ':' then ((splitPoints points).mapM (integerIn 10)).map inSixties
    else integerIn 10 points

/-- The value of an integer. -/
def integer (points : List Nat) : Except Fault Int :=
  let points := withoutUnderscores points
  if points.isEmpty then .error .emptyNumber
  else
    let (negative, points) := splitSignPoint points
    (unsignedInteger points).map fun value => if negative then -value else value

/-- The decimal that a text denotes. -/
def decimalIn (points : List Nat) : Except Fault Number.Binary64 :=
  match Number.Binary64.ofNumeral? (String.ofList (Text.charsOfPoints points)) with
  | some value => .ok value
  | none => .error (.notDecimal (Text.shown (points.map .ofNat)))

/-- The value of decimals in base sixty, given from the last on: each is weighed and added in turn. -/
def decimalInSixties (sum : Number.Binary64) (weight : Nat) :
    List Number.Binary64 → Except Fault Number.Binary64
  | [] => .ok sum
  | digit :: rest =>
    let factor := Number.Binary64.ofInt weight
    if factor.isFinite then decimalInSixties (sum.add (digit.mul factor)) (60 * weight) rest
    else .error .tooLarge

/-- The value of a decimal that comes from a given node. -/
def decimal (source : Nat) (points : List Nat) : Except Fault Atom := do
  let points := Text.lowerPoints (withoutUnderscores points)
  if points.isEmpty then .error .emptyNumber
  else
    let (negative, points) := splitSignPoint points
    let withSign (value : Number.Binary64) : Atom :=
      .float (if negative then value.negate else value) (some source)
    let cs := Text.charsOfPoints points
    if String.ofList cs == ".inf" then return withSign (.infinite false)
    else if String.ofList cs == ".nan" then return .float .nan none
    else if cs.contains ':' then
      let digits ← (splitPoints points).mapM decimalIn
      return withSign (← decimalInSixties (.zero false) 1 digits.reverse)
    else return withSign (← decimalIn points)

/-! ## Other scalars -/

/-- The value of a boolean, in any case. -/
def boolean (points : List Nat) : Except Fault Bool :=
  let lowered := Text.lowerPoints points
  match booleans.lookup (String.ofList (Text.charsOfPoints lowered)) with
  | some value => .ok value
  | none => .error (.notBoolean (Text.shown (lowered.map .ofNat)))

/-- The value of a moment. -/
def moment (points : List Nat) : Except Fault Moment :=
  match MomentParts.read? (withoutFinalBreak (Text.charsOfPoints points)) with
  | some parts => parts.moment.mapError .calendar
  | none => .error .notMoment

/-- The bytes that a scalar stands for; it is ASCII. -/
def bytes (points : List Nat) : Except Fault (List UInt8) :=
  if points.all (· < 0x80) then orMalformed (Text.decodeBase64 (Text.charsOfPoints points))
  else .error .malformed

namespace Graph

/-- The text of a scalar node, or of the default value of a mapping. A chain of default values that is
longer than the number of nodes has no end. -/
def scalarText (graph : Graph) : (fuel : Nat) → Nat → Except Fault (List Nat)
  | 0, _ => .error .tooDeep
  | fuel + 1, id =>
    match graph.content id with
    | .scalar points => .ok points
    | .sequence _ => .error .malformed
    | .mapping entries =>
      match entries.find? fun (key, _) => graph.tag key = .default with
      | some (_, value) => graph.scalarText fuel value
      | none => .error .malformed

/-- The value of a scalar node. -/
def atom (graph : Graph) (id : Nat) : Except Fault Atom := do
  let points ← graph.scalarText (graph.nodes.size + 1) id
  match graph.tag id with
  | .null => return .null
  | .bool => return .bool (← boolean points)
  | .int => return .int (← integer points)
  | .float => decimal id points
  | .time =>
    match graph.content id with
    | .scalar points => return .moment (← moment points)
    | _ => .error .momentOfCollection
  | .binary => return .bytes (← bytes points)
  | .text => return .text points
  | _ => .error .malformed

end Graph

namespace Atom

/-- The whole number that a value counts as when it is a key. -/
def keyInteger? : Atom → Option Int
  | .bool value => some (if value then 1 else 0)
  | .int value => some value
  | .float value _ => value.whole?
  | _ => none

/-- Whether two keys are the same. Numbers are compared by value, and not-a-number by where it comes
from. -/
def same (a b : Atom) : Bool :=
  match a.keyInteger?, b.keyInteger? with
  | some m, some n => m == n
  | some _, none => false
  | none, some _ => false
  | none, none =>
    match a, b with
    | .null, .null => true
    | .text s, .text t => s == t
    | .bytes s, .bytes t => s == t
    | .float x i, .float y j => if x = .nan then y = .nan && i == j else x == y
    | .moment m, .moment n => m.same n
    | _, _ => false

/-- A value as loose data. -/
def toData : Atom → Data
  | .null => .null
  | .bool value => .bool value
  | .int value => .int value
  | .float value _ => .float value
  | .text points => .ofRaw (points.map .ofNat)
  | .bytes value => .bytes value
  | .moment value => .foreign value.shown

end Atom

end HttpSuite.Yaml
