import HttpSuite.Emit.Failure
import HttpSuite.Emit.Lines
import HttpSuite.Emit.UnitName
import HttpSuite.Settings
import HttpSuite.Text.Literal
import HttpSuite.Workspace.Path

/-!
# Java classes

A program as a class of test methods. The header holds the settings and the method that sends a
request; a test sends its requests in order and then checks the last response. The class is named by
the settings or after the output file. Generation fails for a check of an integer that cannot be written,
for a timeout without a whole number of milliseconds, and for a file whose name is no class name.
-/

namespace HttpSuite.Emit.JavaClass

open Text (literal)

/-- The greatest value of type `int`. -/
def intMax : Int := Int.pow 2 31 - 1

/-- The greatest value of type `long`. -/
def longMax : Int := Int.pow 2 63 - 1

/-- The literal for a bound on a status, which is an `int`. A value past that range widens to `long`,
and one past the range of `long` compares like the greatest `long`. -/
def intLiteral (value : Int) : Except Failure String :=
  if value ≤ intMax then decimal value
  else if value ≤ longMax then return (← decimal value) ++ "L"
  else .ok "Long.MAX_VALUE"

/-- The statement that sends a request and keeps the response. -/
def request (request : Request) : String :=
  "response = send(" ++ literal request.method.text ++ ", " ++ literal request.path ++ ");"

/-- The statement that checks the last response. -/
def assertion : Assertion → Except Failure String
  | .statusEquals code => return "assertEquals(" ++ (← intLiteral code) ++ ", response.statusCode());"
  | .statusInRange min max =>
    return "assertTrue(response.statusCode() >= " ++ (← intLiteral min) ++
      " && response.statusCode() <= " ++ (← intLiteral max) ++
      ", \"status \" + response.statusCode() + \" not in " ++ (← decimal min) ++ ".." ++
      (← decimal max) ++ "\");"
  | .bodyContains text =>
    return "assertTrue(response.body().contains(" ++ literal text ++ "), " ++
      literal ("body does not contain " ++ text) ++ ");"
  | .headerEquals name value =>
    return "assertEquals(" ++ literal value ++ ", response.headers().firstValue(" ++ literal name ++
      ").orElse(null));"

/-- The statements of a test: its requests, then its assertions. -/
def body (test : TestBlock) : Except Failure (List String) :=
  return test.requests.map request ++ (← test.assertions.mapM assertion)

/-- One test as a method. -/
def unit (test : TestBlock) (name : String) : Except Failure String :=
  return joinLines (indent (["@Test", "void " ++ name ++ "() throws Exception \x7b",
    "    HttpResponse<String> response;"] ++ indent (← body test) 1 ++ ["\x7d"]) 1)

/-- The whole milliseconds of a timeout in seconds. -/
def milliseconds (timeout : Number.Binary64) : Except Failure Int :=
  match timeout.mul (.ofInt 1000) with
  | .finite negative mantissa exponent =>
    .ok (Number.Binary64.truncate negative mantissa exponent)
  | .infinite _ => .error (.timeout .infinite)
  | .nan => .error (.timeout .notANumber)

/-- The name of a class that is neither named by the settings nor written to a file. -/
def defaultClassName : String := "GeneratedTests"

/-- The name of the class. -/
def className (options : JavaOptions) (outputName : Option RawText) : Except Failure String :=
  match options.className, outputName with
  | some name, _ => .ok name
  | none, none => .ok defaultClassName
  | none, some output =>
    if output.isEmpty then .ok defaultClassName
    else
      let stem := (Path.ofText output).stem
      match stem.toText with
      | .ok name => if isJavaName name then .ok name else .error (.className output stem)
      | .error _ => .error (.className output stem)

/-- What every class imports. -/
def imports : List String :=
  ["import static org.junit.jupiter.api.Assertions.assertEquals;",
    "import static org.junit.jupiter.api.Assertions.assertTrue;",
    "",
    "import java.net.URI;",
    "import java.net.http.HttpClient;",
    "import java.net.http.HttpRequest;",
    "import java.net.http.HttpResponse;",
    "import java.time.Duration;",
    "import java.util.LinkedHashMap;",
    "import java.util.Map;",
    "",
    "import org.junit.jupiter.api.BeforeAll;",
    "import org.junit.jupiter.api.Test;"]

/-- How a class starts, before the name of its source. -/
def title : String := "// HTTP tests generated by testlang"

/-- The package declaration, if there is a package. -/
def packageLines (package : Option String) : List String :=
  match package with
  | none => []
  | some name => if name.isEmpty then [] else ["package " ++ name ++ ";", ""]

/-- The lines before the first test. -/
def header (settings : Settings) (sourceName : Option String) (millis : Int) (className : String) :
    List String :=
  let generation := settings.generation
  [title ++ origin sourceName ++ ". Do not edit by hand.", ""] ++
  packageLines settings.targets.java.package ++ imports ++
  ["",
    "public class " ++ className ++ " \x7b",
    "    static final String BASE_URL = " ++ literal generation.baseUrl ++ ";",
    "    static final Duration TIMEOUT = Duration.ofMillis(" ++ toString millis ++ ");",
    "    static final Map<String, String> DEFAULT_HEADERS = new LinkedHashMap<>();",
    "    static HttpClient client;",
    "",
    "    @BeforeAll",
    "    static void setUp() \x7b"] ++
  generation.headers.map (fun (name, value) =>
    "        DEFAULT_HEADERS.put(" ++ literal name ++ ", " ++ literal value ++ ");") ++
  ["        client = HttpClient.newBuilder().connectTimeout(TIMEOUT).build();",
    "    \x7d",
    "",
    "    static HttpResponse<String> send(String method, String path) throws Exception \x7b",
    "        HttpRequest.Builder builder = HttpRequest.newBuilder(URI.create(BASE_URL + path))",
    "            .timeout(TIMEOUT)",
    "            .method(method, HttpRequest.BodyPublishers.noBody());",
    "        DEFAULT_HEADERS.forEach(builder::header);",
    "        return client.send(builder.build(), HttpResponse.BodyHandlers.ofString());",
    "    \x7d"]

/-- The units of a program. -/
def units (program : Program) : Except Failure (List String) :=
  (program.tests.zip (unitNames (program.tests.map (·.name)))).mapM fun (test, name) => unit test name

/-- The whole class. The units come first, and the timeout is looked at before the name. -/
def text (settings : Settings) (sourceName : Option String) (outputName : Option RawText)
    (program : Program) : Except Failure String := do
  let units ← units program
  let millis ← milliseconds settings.generation.timeout
  let name ← className settings.targets.java outputName
  return fileText "\n\n" (joinLines (header settings sourceName millis name)) units (some "\x7d")

end HttpSuite.Emit.JavaClass
