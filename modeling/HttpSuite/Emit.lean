import HttpSuite.Emit.JavaClass
import HttpSuite.Emit.PythonModule

/-!
# Generated files

One entry for both targets: the text of the generated file, and its parts one by one. The name of the
source stands in the first line of the file as it is, so that a file is a raw text in general.

- `text`: the file for a source whose name is a text, or that has no name.
- `document`: the file for a source with any name.
-/

namespace HttpSuite.Emit

/-- The text of the generated file. -/
def text (target : Target) (settings : Settings) (sourceName : Option String)
    (outputName : Option RawText) (program : Program) : Except Failure String :=
  match target with
  | .python => PythonModule.text settings sourceName program
  | .java => JavaClass.text settings sourceName outputName program

/-- How a generated file starts, before the name of its source. -/
def title : Target → String
  | .python => PythonModule.title
  | .java => JavaClass.title

/-- The words that name a source with any name. -/
def rawOrigin (sourceName : Option RawText) : RawText :=
  match sourceName with
  | none => []
  | some name => if name.isEmpty then [] else " from " ++ name

/-- The generated file for a source with any name: a file without a name, in which the words that name
the source stand behind the title. -/
def document (target : Target) (settings : Settings) (sourceName outputName : Option RawText)
    (program : Program) : Except Failure RawText := do
  let file := RawText.ofText (← text target settings none outputName program)
  let size := (title target).length
  return file.take size ++ rawOrigin sourceName ++ file.drop size

/-- The statement that sends a request. -/
def request (target : Target) (settings : Settings) (node : Request) : String :=
  match target with
  | .python => PythonModule.request settings.targets.python.fixtureName node
  | .java => JavaClass.request node

/-- The statement that checks a response. -/
def assertion (target : Target) (node : Assertion) : Except Failure String :=
  match target with
  | .python => PythonModule.assertion node
  | .java => JavaClass.assertion node

/-- The wording for a request that stands where an assertion should. -/
def notAnAssertion (node : Request) : String :=
  let method := node.method.text
  "Unknown assertion: Request(method=<HttpMethod." ++ method ++ ": " ++ Text.shown method ++
    ">, path=" ++ Text.shown node.path ++ ")"

/-- The names of the forms of assertions. -/
def formName : Assertion → String
  | .statusEquals _ => "StatusEquals"
  | .statusInRange .. => "StatusInRange"
  | .bodyContains _ => "BodyContains"
  | .headerEquals .. => "HeaderEquals"

/-- The wording for an assertion that stands where a request should. -/
def notARequest (node : Assertion) : String :=
  "'" ++ formName node ++ "' object has no attribute 'method'"

end HttpSuite.Emit
