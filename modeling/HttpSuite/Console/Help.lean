import HttpSuite.Console.Command
import HttpSuite.Text.Blank

/-!
# Help

The help of the program and of its commands: how a call is written, what it does, and a table of its
options and commands. Lines have at most 78 characters.
-/

namespace HttpSuite.Help

/-- The greatest length of a line. -/
def width : Nat := 78

/-- Put words on lines of a greatest length; the line so far comes first. -/
def fill (limit : Nat) (line : String) : List String → List String
  | [] => [line]
  | word :: rest =>
    if line.isEmpty then fill limit word rest
    else if line.length + 1 + word.length ≤ limit then fill limit (line ++ " " ++ word) rest
    else line :: fill limit word rest

/-- Break a text of words with single blanks into lines. -/
def wrap (limit : Nat) (text : String) : List String :=
  fill limit "" (text.splitOn " ")

/-- Some blanks. -/
def blanks (n : Nat) : String :=
  String.ofList (List.replicate n ' ')

/-- A table of headings and descriptions. The descriptions start two characters after the longest
heading. -/
def table (rows : List (String × String)) : List String :=
  let column := (rows.map (·.1.length)).foldl max 0 + 2
  rows.flatMap fun (heading, description) =>
    match wrap (width - column - 2) description with
    | [] => [blanks 2 ++ heading]
    | first :: more =>
      (blanks 2 ++ heading ++ blanks (column - heading.length) ++ first) ::
        more.map (blanks (column + 2) ++ ·)

/-- The description of a call, in paragraphs. -/
def paragraphs : Scope → List String
  | .program => ["testlang - compile TestLang++ files into HTTP test code."]
  | .command command => command.summary :: command.remarks

/-- The lines of the help. -/
def lines (scope : Scope) : List String :=
  let description := (paragraphs scope).flatMap fun text =>
    "" :: (wrap (width - 2) text).map (blanks 2 ++ ·)
  let options := ["", "Options:"] ++ table (scope.switches.map fun s => (s.heading, s.description))
  let commands := match scope with
    | .program => ["", "Commands:"] ++ table (Command.all.map fun c => (c.name, c.summary))
    | .command _ => []
  scope.usage :: description ++ options ++ commands

/-- The text of the help. -/
def text (scope : Scope) : String :=
  "\n".intercalate (lines scope)

end HttpSuite.Help
