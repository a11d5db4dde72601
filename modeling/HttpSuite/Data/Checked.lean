import HttpSuite.Data
import HttpSuite.Text.Utf8

/-!
# Reading typed values from loose data

Reading a typed value from loose data either succeeds or lists every problem, each with the place of
the value it concerns, in the order of the fields. `Checked` is the applicative of such readings: both
sides of a combination are read, and their problems are joined.

- `Checked.field`, `Checked.required`: the fields of a record.
- `Checked.text`, `optionalText`, `integer`, `number`, `boolean`, `items`: values of one type.
-/

namespace HttpSuite

/-- One step on the way to a value inside another. -/
inductive Step
  | key (name : String)
  | index (position : Int)
  deriving DecidableEq, Repr

/-- A step as it is written in a place. -/
def Step.text : Step → String
  | .key name => name
  | .index position => toString position

/-- What may be wrong with a loose value. -/
inductive Complaint
  | missing
  | notRecord (record : String)
  | notText
  | undecodable
  | notMapping
  | notList
  | notOneOf (choices : List String)
  | refused (reason : String)
  | notInteger
  | unreadableInteger
  | fractionalInteger
  | hugeInteger
  | notNumber
  | unreadableNumber
  | infiniteInteger
  | notBoolean
  | unreadableBoolean
  | untagged (key : String)
  | unknownTag (key tag : String) (choices : List String)
  | notTagged
  deriving DecidableEq, Repr

/-- Quoted choices with `or` before the last. -/
def orList (choices : List String) : String :=
  let quoted := choices.map fun choice => "'" ++ choice ++ "'"
  match quoted.getLast? with
  | none => ""
  | some last =>
    if quoted.length = 1 then last else ", ".intercalate quoted.dropLast ++ " or " ++ last

namespace Complaint

/-- The name of a complaint. -/
def name : Complaint → String
  | .missing => "missing"
  | .notRecord _ => "model_type"
  | .notText => "string_type"
  | .undecodable => "string_unicode"
  | .notMapping => "dict_type"
  | .notList => "tuple_type"
  | .notOneOf _ => "enum"
  | .refused _ => "value_error"
  | .notInteger => "int_type"
  | .unreadableInteger => "int_parsing"
  | .fractionalInteger => "int_from_float"
  | .hugeInteger => "int_parsing_size"
  | .notNumber => "float_type"
  | .unreadableNumber => "float_parsing"
  | .infiniteInteger => "finite_number"
  | .notBoolean => "bool_type"
  | .unreadableBoolean => "bool_parsing"
  | .untagged _ => "union_tag_not_found"
  | .unknownTag .. => "union_tag_invalid"
  | .notTagged => "model_attributes_type"

/-- The wording of a complaint. -/
def message : Complaint → String
  | .missing => "Field required"
  | .notRecord record => "Input should be a valid dictionary or instance of " ++ record
  | .notText => "Input should be a valid string"
  | .undecodable =>
    "Input should be a valid string, unable to parse raw data as a unicode string"
  | .notMapping => "Input should be a valid dictionary"
  | .notList => "Input should be a valid tuple"
  | .notOneOf choices => "Input should be " ++ orList choices
  | .refused reason => "Value error, " ++ reason
  | .notInteger => "Input should be a valid integer"
  | .unreadableInteger => "Input should be a valid integer, unable to parse string as an integer"
  | .fractionalInteger => "Input should be a valid integer, got a number with a fractional part"
  | .hugeInteger => "Unable to parse input string as an integer, exceeded maximum size"
  | .notNumber => "Input should be a valid number"
  | .unreadableNumber => "Input should be a valid number, unable to parse string as a number"
  | .infiniteInteger => "Input should be a finite number"
  | .notBoolean => "Input should be a valid boolean"
  | .unreadableBoolean => "Input should be a valid boolean, unable to interpret input"
  | .untagged key => "Unable to extract tag using discriminator '" ++ key ++ "'"
  | .unknownTag key tag choices =>
    "Input tag '" ++ tag ++ "' found using '" ++ key ++
      "' does not match any of the expected tags: " ++
      ", ".intercalate (choices.map fun choice => "'" ++ choice ++ "'")
  | .notTagged => "Input should be a valid dictionary or object to extract fields from"

end Complaint

/-- A complaint and the place of the value it concerns. -/
structure Problem where
  place : List Step
  complaint : Complaint
  deriving DecidableEq, Repr

/-- A reading: a value, or all problems in order. -/
inductive Checked (α : Type)
  | ok (value : α)
  | problems (problems : List Problem)
  deriving Repr

namespace Checked

variable {α β : Type}

/-- Apply a function to the value read. -/
protected def map (f : α → β) : Checked α → Checked β
  | .ok a => .ok (f a)
  | .problems ps => .problems ps

/-- Combine two readings; problems of both are kept. -/
protected def seq (f : Checked (α → β)) (a : Checked α) : Checked β :=
  match f, a with
  | .ok f, .ok a => .ok (f a)
  | .ok _, .problems ps => .problems ps
  | .problems ps, .ok _ => .problems ps
  | .problems ps, .problems qs => .problems (ps ++ qs)

instance : Applicative Checked where
  map := Checked.map
  pure := .ok
  seq f a := Checked.seq f (a ())

/-- A reading that fails with one complaint about the value itself. -/
def refuse (complaint : Complaint) : Checked α :=
  .problems [⟨[], complaint⟩]

/-- The same reading, one step further inside. -/
def within (step : Step) : Checked α → Checked α
  | .ok a => .ok a
  | .problems ps => .problems (ps.map fun p => { p with place := step :: p.place })

/-- A further check of the value read. -/
def andThen (reading : Checked α) (check : α → Checked β) : Checked β :=
  match reading with
  | .ok a => check a
  | .problems ps => .problems ps

/-- Read every element of a list, each with its own step. -/
def each (step : Nat → α → Step) (read : α → Checked β) (index : Nat) :
    List α → Checked (List β)
  | [] => .ok []
  | a :: rest => Checked.seq (((read a).within (step index a)).map List.cons) (each step read (index + 1) rest)

/-! ## Records -/

/-- The entries of a record. -/
def entries (record : String) : Data → Checked (List (Data × Data))
  | .mapping entries => .ok entries
  | _ => refuse (.notRecord record)

/-- A field with a default for when it is absent. -/
def field (entries : List (Data × Data)) (name : String) (default : α) (read : Data → Checked α) :
    Checked α :=
  match Data.field? entries name with
  | none => .ok default
  | some value => (read value).within (.key name)

/-- A field that must be present. -/
def required (entries : List (Data × Data)) (name : String) (read : Data → Checked α) : Checked α :=
  match Data.field? entries name with
  | none => (refuse .missing : Checked α).within (.key name)
  | some value => (read value).within (.key name)

/-! ## Values -/

/-- A text: also bytes that encode one. -/
def text : Data → Checked String
  | .text value => .ok value
  | .bytes value =>
    match Text.decodeUtf8 value with
    | .ok value => .ok value
    | .error _ => refuse .undecodable
  | .brokenText _ => refuse .undecodable
  | _ => refuse .notText

/-- A value that is read from its text, if it is a text or bytes: `read` reads the text, `undecoded` is
the complaint about bytes that encode none, and `other` reads what is neither. -/
def fromText (read : String → Checked α) (undecoded : Complaint) (other : Checked α) :
    Data → Checked α
  | .text value => read value
  | .bytes value =>
    match Text.decodeUtf8 value with
    | .ok value => read value
    | .error _ => refuse undecoded
  | .brokenText _ => refuse .undecodable
  | _ => other

/-- A text or nothing. -/
def optionalText : Data → Checked (Option String)
  | .null => .ok none
  | data => (text data).map some

/-- The largest magnitude of a whole number that is still taken from a floating-point value. -/
def wholeLimit : Nat := Nat.pow 2 63

/-- The integer that a text denotes. -/
def integerOfText (value : String) : Checked Int :=
  match Number.ofLooseText value with
  | .ok value => .ok value
  | .error (.tooLong _) => refuse .hugeInteger
  | .error .malformed => refuse .unreadableInteger

/-- An integer: also a boolean, a whole floating-point number, or a numeral. -/
def integer : Data → Checked Int
  | .int value => .ok value
  | .bool value => .ok (if value then 1 else 0)
  | .float (.finite negative mantissa exponent) =>
    match (Number.Binary64.finite negative mantissa exponent).whole? with
    | none => refuse .fractionalInteger
    | some value => if value.natAbs < wholeLimit then .ok value else refuse .hugeInteger
  | .float _ => refuse .infiniteInteger
  | data => fromText integerOfText .unreadableInteger (refuse .notInteger) data

/-- The floating-point number that a text denotes. -/
def numberOfText (value : String) : Checked Number.Binary64 :=
  match Number.Binary64.ofLooseText? value with
  | some value => .ok value
  | none => refuse .unreadableNumber

/-- A floating-point number: also a boolean, an integer that is not too large, or a decimal. -/
def number : Data → Checked Number.Binary64
  | .float value => .ok value
  | .bool value => .ok (.ofInt (if value then 1 else 0))
  | .int value =>
    let nearest := Number.Binary64.ofInt value
    if nearest.isFinite then .ok nearest else refuse .notNumber
  | data => fromText numberOfText .unreadableNumber (refuse .notNumber) data

/-- The words that mean false and true, in any case. -/
def booleanWords : List (String × Bool) :=
  [("0", false), ("off", false), ("f", false), ("false", false), ("n", false), ("no", false),
    ("1", true), ("on", true), ("t", true), ("true", true), ("y", true), ("yes", true)]

/-- The boolean that a whole number stands for. -/
def booleanOfInt (value : Int) : Checked Bool :=
  if value = 0 then .ok false
  else if value = 1 then .ok true
  else refuse .unreadableBoolean

/-- Whether an integer fits a signed word of 64 bits. -/
def fitsWord (value : Int) : Bool :=
  -(Int.pow 2 63) ≤ value && value < Int.pow 2 63

/-- The boolean that a word stands for. -/
def booleanOfText (value : String) : Checked Bool :=
  match booleanWords.lookup (String.ofList (value.toList.map Char.toLower)) with
  | some value => .ok value
  | none => refuse .unreadableBoolean

/-- A boolean: also 0 or 1, or one of the words. -/
def boolean : Data → Checked Bool
  | .bool value => .ok value
  | .int value => if fitsWord value then booleanOfInt value else refuse .notBoolean
  | .float value =>
    match value.whole? with
    | some value => if value.natAbs < wholeLimit then booleanOfInt value else refuse .notBoolean
    | none => refuse .notBoolean
  | data => fromText booleanOfText .unreadableBoolean (refuse .notBoolean) data

/-- A list of values of one type. -/
def items (read : Data → Checked α) : Data → Checked (List α)
  | .list items => each (fun index _ => .index index) read 0 items
  | _ => refuse .notList

/-- How a key of a mapping stands in a place: integers and booleans as numbers, the rest by their
text. -/
def keyStep : Data → Step
  | .int value => if fitsWord value then .index value else .key (toString value)
  | .bool value => .index (if value then 1 else 0)
  | key => .key key.plainText

/-- One entry of a mapping from texts to texts. -/
def textEntry (entry : Data × Data) : Checked (String × String) :=
  Checked.seq (((text entry.1).within (.key "[key]")).map Prod.mk) (text entry.2)

/-- Add an entry; a key that is there keeps its place and takes the new value. -/
def putText (entries : List (String × String)) (entry : String × String) :
    List (String × String) :=
  if entries.any (·.1 == entry.1) then
    entries.map fun old => if old.1 == entry.1 then entry else old
  else entries ++ [entry]

/-- A mapping from texts to texts, in order. Different keys may have the same text. -/
def textMapping : Data → Checked (List (String × String))
  | .mapping entries =>
    (each (fun _ entry => keyStep entry.1) textEntry 0 entries).map (·.foldl putText [])
  | _ => refuse .notMapping

end Checked

end HttpSuite
