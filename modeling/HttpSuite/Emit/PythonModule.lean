import HttpSuite.Emit.Failure
import HttpSuite.Emit.Lines
import HttpSuite.Emit.UnitName
import HttpSuite.Settings
import HttpSuite.Text.Literal

/-!
# Python modules

A program as a module of test functions. The header imports what the tests need, holds the settings
and defines the fixture through which every test reaches its client. A test sends its requests in
order and then checks the last response. Generation fails for a check of an integer that cannot be
written.
-/

namespace HttpSuite.Emit.PythonModule

open Text (literal)

/-- The statement that sends a request and keeps the response. -/
def request (fixture : String) (request : Request) : String :=
  "response = " ++ fixture ++ ".request(" ++ literal request.method.text ++ ", " ++
    literal request.path ++ ")"

/-- The statement that checks the last response. -/
def assertion : Assertion → Except Failure String
  | .statusEquals code => return "assert response.status_code == " ++ (← decimal code)
  | .statusInRange min max =>
    return "assert " ++ (← decimal min) ++ " <= response.status_code <= " ++ (← decimal max)
  | .bodyContains text => return "assert " ++ literal text ++ " in response.text"
  | .headerEquals name value =>
    return "assert response.headers.get(" ++ literal name ++ ") == " ++ literal value

/-- The statements of a test: its requests, then its assertions. -/
def body (fixture : String) (test : TestBlock) : Except Failure (List String) :=
  return test.requests.map (request fixture) ++ (← test.assertions.mapM assertion)

/-- One test as a function. -/
def unit (fixture : String) (test : TestBlock) (name : String) : Except Failure String :=
  return joinLines (("def " ++ name ++ "(" ++ fixture ++ "):") :: indent (← body fixture test) 1)

/-- How a module starts, before the name of its source. -/
def title : String := "\"\"\"HTTP tests generated by testlang"

/-- The lines before the first test. -/
def header (settings : Settings) (sourceName : Option String) : List String :=
  let generation := settings.generation
  let headers := generation.headers.map fun (name, value) => literal name ++ ": " ++ literal value
  [title ++ origin sourceName ++ ".",
    "",
    "Do not edit by hand; regenerate with `testlang compile`.",
    "\"\"\"",
    "",
    "import httpx",
    "import pytest",
    "",
    "BASE_URL = " ++ literal generation.baseUrl,
    "TIMEOUT = " ++ Number.plain.text generation.timeout,
    "DEFAULT_HEADERS = \x7b" ++ ", ".intercalate headers ++ "\x7d",
    "",
    "",
    "@pytest.fixture",
    "def " ++ settings.targets.python.fixtureName ++ "():",
    "    with httpx.Client(base_url=BASE_URL, headers=DEFAULT_HEADERS, timeout=TIMEOUT) as client:",
    "        yield client"]

/-- The units of a program. -/
def units (settings : Settings) (program : Program) : Except Failure (List String) :=
  (program.tests.zip (unitNames (program.tests.map (·.name)))).mapM fun (test, name) =>
    unit settings.targets.python.fixtureName test name

/-- The whole module. -/
def text (settings : Settings) (sourceName : Option String) (program : Program) :
    Except Failure String :=
  return fileText "\n\n\n" (joinLines (header settings sourceName)) (← units settings program) none

end HttpSuite.Emit.PythonModule
