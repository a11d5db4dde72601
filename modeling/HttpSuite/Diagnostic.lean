import HttpSuite.Program.Grammar
import HttpSuite.Text.Utf8
import HttpSuite.Workspace.FileError
import HttpSuite.Workspace.Path

/-!
# Diagnostics

A failed compilation is reported as one `CompileError`: a cause that belongs to a stage. Everything
that is shown of it is derived from the cause: the wording, the place if it has one, and a few named
details.
-/

namespace HttpSuite

/-- The stages of a compilation. -/
inductive Stage
  | lex
  | parse
  | validate
  | codegen
  deriving DecidableEq, Repr

namespace Stage

/-- The stages in the order in which they run. -/
def all : List Stage := [.lex, .parse, .validate, .codegen]

/-- The name of a stage. -/
def name : Stage → String
  | .lex => "lex"
  | .parse => "parse"
  | .validate => "validate"
  | .codegen => "codegen"

/-- The stage with a given name. -/
def ofName? (name : String) : Option Stage :=
  all.find? (·.name == name)

end Stage

/-- The structural rules of a program. -/
inductive Rule
  | noTests
  | emptyTest
  | insufficientAssertions
  deriving DecidableEq, Repr

namespace Rule

/-- The rules in the order in which they are checked. -/
def all : List Rule := [.noTests, .emptyTest, .insufficientAssertions]

/-- The name of a rule. -/
def name : Rule → String
  | .noTests => "no_tests"
  | .emptyTest => "empty_test"
  | .insufficientAssertions => "insufficient_assertions"

/-- The rule with a given name. -/
def ofName? (name : String) : Option Rule :=
  all.find? (·.name == name)

end Rule

/-- A broken rule, the test that breaks it and the number of its assertions, as far as they apply. -/
structure Violation where
  rule : Rule
  testName : Option String := none
  count : Option Int := none
  deriving DecidableEq, Repr

namespace Violation

/-- A program without tests. -/
def noTests : Violation := { rule := .noTests }

/-- A test without requests. -/
def emptyTest (name : String) : Violation :=
  { rule := .emptyTest, testName := some name }

/-- A test with fewer assertions than required. -/
def insufficientAssertions (name : String) (count : Nat) : Violation :=
  { rule := .insufficientAssertions, testName := some name, count := some count }

/-- The wording of a violation; what does not apply is called `None`. -/
def message (violation : Violation) : String :=
  let name := (violation.testName.map fun name => Text.shown name).getD "None"
  let count := (violation.count.map toString).getD "None"
  match violation.rule with
  | .noTests => "no test blocks found in the program"
  | .emptyTest => "test " ++ name ++ " contains no HTTP request"
  | .insufficientAssertions =>
    "test " ++ name ++ " has " ++ count ++ " assertion(s), at least 2 are required"

end Violation

/-- Why a source cannot be read. -/
inductive ReadFailure
  | file (error : FileError)
  | encoding (fault : Text.Utf8Fault)
  deriving DecidableEq, Repr

/-- The wording of a read failure. -/
def ReadFailure.message : ReadFailure → String
  | .file error => error.message
  | .encoding fault => fault.message

/-- Why an output cannot be written. -/
inductive WriteFailure
  | file (error : FileError)
  /-- The class would have to be named after the file, and cannot. -/
  | className (stem : RawText)
  deriving DecidableEq, Repr

/-- The wording of a write failure. -/
def WriteFailure.message : WriteFailure → String
  | .file error => error.message
  | .className stem =>
    Text.shown stem ++
      " is not a valid Java class name; rename the output file or set targets.java.class_name"

/-- A failed compilation. -/
inductive CompileError
  | lexical (fault : LexFault)
  | unreadable (path : Path) (cause : ReadFailure)
  | grammar (fault : SyntaxFault)
  | structural (violation : Violation)
  | unwritable (path : Path) (cause : WriteFailure)
  deriving DecidableEq, Repr

/-- A named detail of an error. -/
inductive Detail
  | text (value : RawText)
  | number (value : Int)
  | texts (values : List String)
  deriving DecidableEq, Repr

/-- What a syntax fault found: the text of the token, or its kind if it has none. -/
def SyntaxFault.found (fault : SyntaxFault) : String :=
  if fault.actual.text == "" then fault.actual.kind.display else fault.actual.text

/-- The alternatives of a syntax fault as they are displayed, in order of their text. -/
def SyntaxFault.alternatives (fault : SyntaxFault) : List String :=
  (fault.expected.map Kind.display).mergeSort (fun a b => decide (a ≤ b))

namespace CompileError

/-- The stage that reports an error. -/
def stage : CompileError → Stage
  | .lexical _ | .unreadable _ _ => .lex
  | .grammar _ => .parse
  | .structural _ => .validate
  | .unwritable _ _ => .codegen

/-- The wording of an error, without its place. A path stands in it as it is. -/
def text : CompileError → RawText
  | .lexical fault => fault.reason.text ++ " " ++ Text.shown fault.offending
  | .unreadable path cause => "could not read " ++ path.text ++ (": " ++ cause.message)
  | .grammar fault =>
    let found :=
      if fault.actual.text == "" then fault.actual.kind.display else Text.shown fault.actual.text
    let wanted := if fault.expected.isEmpty then "nothing" else ", ".intercalate fault.alternatives
    "expected " ++ wanted ++ " but found " ++ found
  | .structural violation => violation.message
  | .unwritable path cause => "could not write " ++ path.text ++ (": " ++ cause.message)

/-- The place of an error in the source. -/
def position? : CompileError → Option Position
  | .lexical fault => some fault.position
  | .grammar fault => some fault.actual.position
  | _ => none

/-- The named details of an error. -/
def details : CompileError → List (String × Detail)
  | .lexical fault => [("offending_text", .text fault.offending), ("reason", .text fault.reason.text)]
  | .unreadable path cause => [("path", .text path.text), ("cause", .text cause.message)]
  | .grammar fault => [("expected", .texts fault.alternatives), ("actual", .text fault.found)]
  | .structural violation =>
    ("kind", .text violation.rule.name) ::
      ((violation.testName.map fun name => ("test_name", Detail.text name)).toList ++
        (violation.count.map fun count => ("count", Detail.number count)).toList)
  | .unwritable path cause => [("path", .text path.text), ("cause", .text cause.message)]

end CompileError

/-- The plain data of a diagnostic: its stage, its wording and the place as far as it is known. -/
structure Diagnostic where
  stage : Stage
  text : RawText
  line : Option Int := none
  column : Option Int := none
  deriving DecidableEq, Repr

namespace Diagnostic

/-- The place as `line:column`, or the line alone. -/
def location? (diagnostic : Diagnostic) : Option String :=
  match diagnostic.line, diagnostic.column with
  | none, _ => none
  | some line, none => some (toString line)
  | some line, some column => some (Position.text ⟨line, column⟩)

/-- The wording with its place in front; an unknown column is called `None`. -/
def message (diagnostic : Diagnostic) : RawText :=
  match diagnostic.line with
  | none => diagnostic.text
  | some line =>
    (toString line ++ ":" ++ (diagnostic.column.map toString).getD "None" ++ ": ") ++ diagnostic.text

end Diagnostic

/-- The plain data of an error. -/
def CompileError.diagnostic (error : CompileError) : Diagnostic where
  stage := error.stage
  text := error.text
  line := error.position?.map (·.line)
  column := error.position?.map (·.column)

end HttpSuite
