import HttpSuite.Data
import HttpSuite.Text.Literal

/-!
# Loose data as JSON

JSON text with one entry a line, indented by two blanks. What JSON cannot express is written as null.
-/

namespace HttpSuite.Data

/-- The blanks in front of a line at a depth. -/
def jsonIndent (depth : Nat) : String :=
  String.ofList (List.replicate (2 * depth) ' ')

/-- Lines between two brackets, or the brackets alone. -/
def jsonBlock (left right : String) (depth : Nat) (lines : List String) : String :=
  if lines.isEmpty then left ++ right
  else
    let inner := lines.map fun line => jsonIndent (depth + 1) ++ line
    left ++ "\n" ++ ",\n".intercalate inner ++ "\n" ++ jsonIndent depth ++ right

mutual

/-- A value as JSON text at a depth. -/
def jsonAt (depth : Nat) : Data → String
  | .null => "null"
  | .bool value => if value then "true" else "false"
  | .int value => toString value
  | .float value => Number.json.text value
  | .text value => Text.literal value
  | .list items => jsonBlock "[" "]" depth (jsonItems depth items)
  | .mapping entries => jsonBlock "\x7b" "\x7d" depth (jsonEntries depth entries)
  | .bytes value => Text.literal (Text.shownBytes value)
  | .brokenText raw => Text.literal (Text.shown raw)
  | .foreign shown => Text.literal shown

/-- The items of a list as JSON texts. -/
def jsonItems (depth : Nat) : List Data → List String
  | [] => []
  | item :: rest => jsonAt (depth + 1) item :: jsonItems depth rest

/-- The entries of a mapping as JSON texts. -/
def jsonEntries (depth : Nat) : List (Data × Data) → List String
  | [] => []
  | (key, value) :: rest =>
    (Text.literal key.plainText ++ ": " ++ jsonAt (depth + 1) value) :: jsonEntries depth rest

end

/-- A value as JSON text. -/
def json (data : Data) : String :=
  data.jsonAt 0

/-- A value as JSON text on one line. Line feeds inside texts are escaped, so those that are left stand
between entries. -/
def jsonLine (data : Data) : String :=
  String.ofList (((data.json.splitOn "\n").map String.toList).flatMap
    (·.dropWhile (· == ' ')))

end HttpSuite.Data
