import HttpSuite.Data.Checked
import HttpSuite.Program

/-!
# Programs as loose data

A program can be read from loose data, with all problems listed, and written back. Assertions are told
apart by their `kind`.

- `Program.ofData`: reading.
- `Program.toData`: writing; reading the result gives the program back.
-/

namespace HttpSuite

namespace Method

/-- A verb by its spelling. -/
def ofData : Data → Checked Method
  | .text value =>
    match Method.ofText? value with
    | some method => .ok method
    | none => Checked.refuse (.notOneOf (Method.all.map Method.text))
  | _ => Checked.refuse (.notOneOf (Method.all.map Method.text))

end Method

/-- Read a request. -/
def Request.ofData (data : Data) : Checked Request :=
  (Checked.entries "Request" data).andThen fun entries =>
    Request.mk <$> Checked.required entries "method" Method.ofData
      <*> Checked.required entries "path" Checked.text

namespace Assertion

/-- The kinds of assertion by name. -/
def kinds : List String := ["status_equals", "status_in_range", "body_contains", "header_equals"]

/-- Read the fields of an assertion of a known kind; none if the kind is unknown. -/
def ofEntries? (entries : List (Data × Data)) : String → Option (Checked Assertion)
  | "status_equals" =>
    some (Assertion.statusEquals <$> Checked.required entries "code" Checked.integer)
  | "status_in_range" =>
    some (Assertion.statusInRange <$> Checked.required entries "min" Checked.integer
      <*> Checked.required entries "max" Checked.integer)
  | "body_contains" =>
    some (Assertion.bodyContains <$> Checked.required entries "text" Checked.text)
  | "header_equals" =>
    some (Assertion.headerEquals <$> Checked.required entries "name" Checked.text
      <*> Checked.required entries "value" Checked.text)
  | _ => none

/-- Read an assertion. -/
def ofData : Data → Checked Assertion
  | .mapping entries =>
    match Data.field? entries "kind" with
    | none => Checked.refuse (.untagged "kind")
    | some (.text kind) =>
      match ofEntries? entries kind with
      | some reading => reading.within (.key kind)
      | none => Checked.refuse (.unknownTag "kind" kind kinds)
    | some other => Checked.refuse (.unknownTag "kind" other.plainText kinds)
  | _ => Checked.refuse .notTagged

end Assertion

/-- Read a test block. -/
def TestBlock.ofData (data : Data) : Checked TestBlock :=
  (Checked.entries "TestBlock" data).andThen fun entries =>
    TestBlock.mk <$> Checked.required entries "name" Checked.text
      <*> Checked.field entries "requests" [] (Checked.items Request.ofData)
      <*> Checked.field entries "assertions" [] (Checked.items Assertion.ofData)

/-- Read a program. -/
def Program.ofData (data : Data) : Checked Program :=
  (Checked.entries "Program" data).andThen fun entries =>
    Program.mk <$> Checked.field entries "tests" [] (Checked.items TestBlock.ofData)

/-! ## Writing -/

/-- A record of named values. -/
def Data.record (fields : List (String × Data)) : Data :=
  .mapping (fields.map fun (name, value) => (.text name, value))

/-- Write a request. -/
def Request.toData (request : Request) : Data :=
  .record [("method", .text request.method.text), ("path", .text request.path)]

/-- Write an assertion. -/
def Assertion.toData : Assertion → Data
  | .statusEquals code => .record [("kind", .text "status_equals"), ("code", .int code)]
  | .statusInRange min max =>
    .record [("kind", .text "status_in_range"), ("min", .int min), ("max", .int max)]
  | .bodyContains text => .record [("kind", .text "body_contains"), ("text", .text text)]
  | .headerEquals name value =>
    .record [("kind", .text "header_equals"), ("name", .text name), ("value", .text value)]

/-- Write a test block. -/
def TestBlock.toData (test : TestBlock) : Data :=
  .record [("name", .text test.name), ("requests", .list (test.requests.map Request.toData)),
    ("assertions", .list (test.assertions.map Assertion.toData))]

/-- Write a program. -/
def Program.toData (program : Program) : Data :=
  .record [("tests", .list (program.tests.map TestBlock.toData))]

end HttpSuite
