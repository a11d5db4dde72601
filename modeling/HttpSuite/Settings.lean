import HttpSuite.Data.Checked
import HttpSuite.Journal.Level
import HttpSuite.Program.Data
import HttpSuite.Target

/-!
# Settings

What can be chosen about generated files and about the journal, with defaults. Settings are read from
loose data: every field is optional, unknown fields are ignored, and all problems are listed in the
order of the fields. Accepted settings are normal: the base address has no slash at its end, the level
is one of the five, the fixture has a name that clashes with no other name of the generated module,
and a class name is one that Java takes.

- `Settings.ofData`: reading.
- `Settings.toData`: writing; reading the result gives the settings back.
-/

namespace HttpSuite

/-- Settings that go into every generated file. -/
structure Generation where
  /-- Put in front of every path. -/
  baseUrl : String := "http://localhost:8080"
  /-- Seconds to wait for a response. -/
  timeout : Number.Binary64 := .ofInt 10
  /-- Sent with every request, in this order. -/
  headers : List (String × String) := []
  deriving DecidableEq, Repr

/-- Settings of the Python target. -/
structure PythonOptions where
  /-- The parameter through which a test reaches the client. -/
  fixtureName : String := "client"
  deriving DecidableEq, Repr

/-- Settings of the Java target. -/
structure JavaOptions where
  package : Option String := none
  /-- Absent, the class is named after the output file. -/
  className : Option String := none
  deriving DecidableEq, Repr

/-- Settings of the targets. -/
structure TargetOptions where
  python : PythonOptions := {}
  java : JavaOptions := {}
  deriving DecidableEq, Repr

/-- Settings of the journal. -/
structure JournalOptions where
  level : Level := .warning
  json : Bool := false
  deriving DecidableEq, Repr

/-- All settings. -/
structure Settings where
  version : String := "0.1"
  /-- The target when none is asked for. -/
  target : Target := .python
  generation : Generation := {}
  targets : TargetOptions := {}
  journal : JournalOptions := {}
  deriving DecidableEq, Repr

/-- The target of a compilation: the one that is asked for, or else the one that is set. -/
def Settings.targetFor (settings : Settings) (requested : Option Target) : Target :=
  requested.getD settings.target

/-! ## Reading -/

/-- A target by its name or alias, or by the bytes of its name. -/
def Target.ofData : Data → Checked Target
  | .text name =>
    match Target.ofName name with
    | .ok target => .ok target
    | .error wording => Checked.refuse (.refused wording)
  | .brokenText name => Checked.refuse (.refused (Target.unknown (Text.shown name)))
  | .bytes value =>
    match Target.all.find? fun target => Text.encodeUtf8 target.name == value with
    | some target => .ok target
    | none => Checked.refuse (.notOneOf (Target.all.map Target.name))
  | _ => Checked.refuse (.notOneOf (Target.all.map Target.name))

/-- An address without slashes at its end. -/
def baseUrlOfData (data : Data) : Checked String :=
  (Checked.text data).map fun url => String.ofList (Text.trimRight (· == '/') url.toList)

/-- Read the settings of generated files. -/
def Generation.ofData (data : Data) : Checked Generation :=
  (Checked.entries "CodegenConfig" data).andThen fun entries =>
    Generation.mk <$> Checked.field entries "base_url" ({} : Generation).baseUrl baseUrlOfData
      <*> Checked.field entries "timeout_seconds" ({} : Generation).timeout Checked.number
      <*> Checked.field entries "default_headers" [] Checked.textMapping

/-- The names that a generated module uses for itself. -/
def moduleNames : List String :=
  ["httpx", "pytest", "response", "BASE_URL", "TIMEOUT", "DEFAULT_HEADERS"]

/-- Whether a name is, or may become, another name of a generated module. -/
def clashesInModule (name : String) : Bool :=
  moduleNames.contains name || "test".toList.isPrefixOf name.toList

/-- A name for the fixture. -/
def fixtureNameOfData (data : Data) : Checked String :=
  (Checked.text data).andThen fun name =>
    if !isPythonName name then
      Checked.refuse (.refused ("fixture_name must be a Python identifier, got " ++ Text.shown name))
    else if clashesInModule name then
      Checked.refuse (.refused
        ("fixture_name " ++ Text.shown name ++ " clashes with a name in the generated module"))
    else .ok name

/-- Read the settings of the Python target. -/
def PythonOptions.ofData (data : Data) : Checked PythonOptions :=
  (Checked.entries "PythonTargetConfig" data).andThen fun entries =>
    PythonOptions.mk <$>
      Checked.field entries "fixture_name" ({} : PythonOptions).fixtureName fixtureNameOfData

/-- A name for the class, or none. -/
def classNameOfData (data : Data) : Checked (Option String) :=
  (Checked.optionalText data).andThen fun
    | none => .ok none
    | some name =>
      if isJavaName name then .ok (some name)
      else Checked.refuse (.refused ("class_name must be a Java identifier, got " ++ Text.shown name))

/-- Read the settings of the Java target. -/
def JavaOptions.ofData (data : Data) : Checked JavaOptions :=
  (Checked.entries "JavaTargetConfig" data).andThen fun entries =>
    JavaOptions.mk <$> Checked.field entries "package" none Checked.optionalText
      <*> Checked.field entries "class_name" none classNameOfData

/-- Read the settings of the targets. -/
def TargetOptions.ofData (data : Data) : Checked TargetOptions :=
  (Checked.entries "TargetsConfig" data).andThen fun entries =>
    TargetOptions.mk <$> Checked.field entries "python" {} PythonOptions.ofData
      <*> Checked.field entries "java" {} JavaOptions.ofData

/-- A level by its name. -/
def Level.ofData (data : Data) : Checked Level :=
  (Checked.text data).andThen fun name =>
    match Level.ofName? name with
    | some level => .ok level
    | none => Checked.refuse (.refused ("Unknown log level: " ++ Text.shown name))

/-- The format of the journal stands under `json`, or else under `json_output`. -/
def jsonOfEntries (entries : List (Data × Data)) : Checked Bool :=
  match Data.field? entries "json" with
  | some _ => Checked.field entries "json" false Checked.boolean
  | none => Checked.field entries "json_output" false Checked.boolean

/-- Read the settings of the journal. -/
def JournalOptions.ofData (data : Data) : Checked JournalOptions :=
  (Checked.entries "LoggingConfig" data).andThen fun entries =>
    JournalOptions.mk <$> Checked.field entries "level" .warning Level.ofData
      <*> jsonOfEntries entries

/-- Read settings. -/
def Settings.ofData (data : Data) : Checked Settings :=
  (Checked.entries "CompilerConfig" data).andThen fun entries =>
    Settings.mk <$> Checked.field entries "version" ({} : Settings).version Checked.text
      <*> Checked.field entries "target" .python Target.ofData
      <*> Checked.field entries "codegen" {} Generation.ofData
      <*> Checked.field entries "targets" {} TargetOptions.ofData
      <*> Checked.field entries "logging" {} JournalOptions.ofData

/-! ## Writing -/

/-- A text or nothing as loose data. -/
def Data.ofOption : Option String → Data
  | some value => .text value
  | none => .null

/-- Settings as loose data, every field by its own name. -/
def Settings.toData (settings : Settings) : Data :=
  .record [
    ("version", .text settings.version),
    ("target", .text settings.target.name),
    ("codegen", .record [
      ("base_url", .text settings.generation.baseUrl),
      ("timeout_seconds", .float settings.generation.timeout),
      ("default_headers", .record (settings.generation.headers.map fun (k, v) => (k, .text v)))]),
    ("targets", .record [
      ("python", .record [("fixture_name", .text settings.targets.python.fixtureName)]),
      ("java", .record [
        ("package", .ofOption settings.targets.java.package),
        ("class_name", .ofOption settings.targets.java.className)])]),
    ("logging", .record [
      ("level", .text settings.journal.level.name),
      ("json_output", .bool settings.journal.json)])]

end HttpSuite
