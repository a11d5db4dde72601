import HttpSuite.Text.Blank

/-!
# Lines on the screen

What a command prints is reduced to lines without layout: runs of blanks count as one, blanks at the
ends and empty lines are dropped, and the characters that boxes are drawn with count as blanks.
-/

namespace HttpSuite.Screen

/-- Characters that boxes are drawn with. -/
def isBoxDrawing (c : Char) : Bool :=
  0x2500 ≤ c.toNat && c.toNat ≤ 0x257f

/-- Every run of blanks as one blank. -/
def squeezeBlanks : List Char → List Char
  | [] => []
  | c :: rest =>
    if Text.isBlank c then
      match squeezeBlanks rest with
      | ' ' :: squeezed => ' ' :: squeezed
      | squeezed => ' ' :: squeezed
    else c :: squeezeBlanks rest

/-- Characters that end a line on the screen, the line feed and its relatives. -/
def endsLine (c : Char) : Bool :=
  [0x0a, 0x0b, 0x0c, 0x0d, 0x1c, 0x1d, 0x1e, 0x85, 0x2028, 0x2029].contains c.toNat

/-- Split a text at the characters of a class. -/
def splitAt (divides : Char → Bool) (cs : List Char) : List (List Char) :=
  cs.foldr (fun c parts =>
    if divides c then [] :: parts
    else match parts with
      | [] => [[c]]
      | part :: rest => (c :: part) :: rest) [[]]

/-- The lines of a text without layout. -/
def lines (text : String) : List String :=
  let plain := text.toList.map fun c => if isBoxDrawing c then ' ' else c
  let squeezed := (splitAt endsLine plain).map fun line => Text.trim Text.isBlank (squeezeBlanks line)
  (squeezed.filter (!·.isEmpty)).map String.ofList

/-- Drop the terminal commands of a text: an escape character and a bracket, parameters, and a letter. -/
def dropCommands (cs : List Char) : List Char :=
  match cs with
  | [] => []
  | '\x1b' :: '[' :: rest =>
    let isParameter (c : Char) : Bool := c.isDigit || c == ';' || c == '?'
    let parameters := rest.takeWhile isParameter
    let after := rest.drop parameters.length
    if after.head?.any Char.isAlpha then dropCommands (after.drop 1)
    else '\x1b' :: dropCommands ('[' :: rest)
  | c :: rest => c :: dropCommands rest
termination_by cs.length
decreasing_by all_goals simp_wf <;> grind

/-- A text without terminal commands. -/
def withoutCommands (text : String) : String :=
  String.ofList (dropCommands text.toList)

/-- The lines of a text with their layout, except for blanks at the end and blank lines. -/
def laidOutLines (text : String) : List String :=
  let trimmed := (splitAt endsLine text.toList).map (Text.trimRight Text.isBlank)
  (trimmed.filter (!·.isEmpty)).map String.ofList

end HttpSuite.Screen
