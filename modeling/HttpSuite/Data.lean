import HttpSuite.Number.Shortest
import HttpSuite.Text.Shown

/-!
# Loose data

The values that settings and trees are read from: what a JSON text or a YAML document denotes. Entries
of a mapping are in order, and keys may be any value.
-/

namespace HttpSuite

/-- A loose value. -/
inductive Data
  | null
  | bool (value : Bool)
  | int (value : Int)
  | float (value : Number.Binary64)
  | text (value : String)
  | list (items : List Data)
  | mapping (entries : List (Data × Data))
  | bytes (value : List UInt8)
  /-- A text with code points that are no characters. -/
  | brokenText (raw : RawText)
  /-- A value of a kind that no setting takes, such as a date, by its text. -/
  | foreign (shown : String)
  deriving Repr, Inhabited

namespace Data

mutual

/-- A value as it is shown inside another one. -/
def shown : Data → String
  | .null => "None"
  | .bool true => "True"
  | .bool false => "False"
  | .int value => toString value
  | .float value => Number.plain.text value
  | .text value => Text.shown value
  | .list items => "[" ++ ", ".intercalate (shownItems items) ++ "]"
  | .mapping entries => "\x7b" ++ ", ".intercalate (shownEntries entries) ++ "\x7d"
  | .bytes value => Text.shownBytes value
  | .brokenText raw => Text.shown raw
  | .foreign shown => shown

/-- The items of a list as they are shown. -/
def shownItems : List Data → List String
  | [] => []
  | item :: rest => shown item :: shownItems rest

/-- The entries of a mapping as they are shown. -/
def shownEntries : List (Data × Data) → List String
  | [] => []
  | (key, value) :: rest => (shown key ++ ": " ++ shown value) :: shownEntries rest

end

/-- What stands for a code point that is no character: each of the three bytes that it would take is
replaced. -/
def replacement : List Char := ['\ufffd', '\ufffd', '\ufffd']

/-- A value as it is shown by itself: texts stand without quotes. -/
def plainText : Data → String
  | .text value => value
  | .brokenText raw => String.ofList (raw.flatMap fun
    | .char c => [c]
    | .surrogate _ => replacement)
  | value => value.shown

/-- A raw text as a value. -/
def ofRaw (raw : RawText) : Data :=
  match raw.toText with
  | .ok value => .text value
  | .error _ => .brokenText raw

/-- The value at a text key of a mapping. -/
def field? (entries : List (Data × Data)) (name : String) : Option Data :=
  entries.findSome? fun
    | (.text key, value) => if key == name then some value else none
    | _ => none

end Data

end HttpSuite
