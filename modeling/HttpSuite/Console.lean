import HttpSuite.Compile.File
import HttpSuite.Console.Arguments
import HttpSuite.Console.Help
import HttpSuite.Console.Report
import HttpSuite.Console.Screen
import HttpSuite.Console.Table
import HttpSuite.Data.Json
import HttpSuite.Journal
import HttpSuite.Settings.File

/-!
# The console

Running a call: what it prints, what it reports, its exit code and the workspace after it.

- `Console.run`: any call.
-/

namespace HttpSuite.Console

/-- Why a run stops without a report of its own. -/
inductive Escape
  | settings (failure : SettingsFailure)
  | failure (failure : Failure)
  /-- A text that was to be printed is no markup. -/
  | markup (fault : Markup.Fault)
  | file (error : FileError)
  /-- A path in the call holds a null character. -/
  | nullPath
  deriving DecidableEq, Repr

/-- The lines that tell why a run stopped. -/
def Escape.lines : Escape → List String
  | .settings (.file error) | .file error => [error.message]
  | .settings (.encoding fault) => [fault.message]
  | .settings (.document .malformed) | .settings (.document .unfinished) =>
    ["The settings file is not well-formed"]
  | .settings (.document fault) => [fault.message]
  | .settings (.problems problems) =>
    problems.map fun problem =>
      ".".intercalate (problem.place.map Step.text) ++ ": " ++ problem.complaint.message
  | .failure (.error error) => [error.text.legible]
  | .failure (.value token) => [token.message]
  | .failure .digits => [Emit.digitsMessage]
  | .failure (.timeout fault) => [fault.message]
  | .failure .nullPath | .nullPath => [FileFault.nullCharacter.text]
  | .failure (.unencodable fault) => [fault.message]
  | .markup .tag => ["A closing tag has no tag to close"]
  | .markup .colour => ["A colour has a component that is no number"]

/-- What a run leaves behind besides files. -/
structure Outcome where
  exitCode : Nat := 0
  escape : Option Escape := none
  /-- The lines printed. -/
  output : List String := []
  /-- The lines of a complaint about the call. -/
  complaint : List String := []
  /-- How events are shown. -/
  journal : Journal := {}
  events : List Event := []
  deriving DecidableEq, Repr

namespace Outcome

/-- A run that stops without a report. -/
def escaping (outcome : Outcome) (escape : Escape) : Outcome :=
  { outcome with exitCode := 1, escape := some escape }

/-- Print markup. -/
def print (outcome : Outcome) (markup : String) : Outcome :=
  match Markup.shownText markup with
  | .ok text => { outcome with output := outcome.output ++ Screen.lines text }
  | .error fault => outcome.escaping (.markup fault)

/-- Print markup in a box with a title; nothing is printed if one of them is at fault. -/
def printBox (outcome : Outcome) (title body : String) : Outcome :=
  match [title, body].mapM Markup.shownText with
  | .ok texts => { outcome with output := outcome.output ++ texts.flatMap Screen.lines }
  | .error fault => outcome.escaping (.markup fault)

/-- Print a table of markup; nothing is printed if a part of it is at fault. -/
def printTable (outcome : Outcome) (title : String) (rows : List (List String)) : Outcome :=
  let table : Except Markup.Fault Table := do
    let rows ← rows.mapM (·.mapM Markup.shownText)
    let title ← Markup.shownText title
    return { title := title.toList, rows := rows.map (·.map String.toList) }
  match table with
  | .ok table => { outcome with output := outcome.output ++ table.lines }
  | .error fault => outcome.escaping (.markup fault)

/-- Report an error, which makes the run fail. -/
def printError (outcome : Outcome) (error : CompileError) (path : Path) : Outcome :=
  { outcome with exitCode := 1 }.printBox "[red]Compilation Failed[/red]" (error.report path)

/-- Report the failure of a compilation. -/
def printFailure (outcome : Outcome) (failure : Failure) (path : Path) : Outcome :=
  match failure with
  | .error error => outcome.printError error path
  | failure => outcome.escaping (.failure failure)

end Outcome

/-- The settings of a call, and a run with the journal set up by them. -/
def configured (ws : Workspace) (call : Call) : Except SettingsFailure (Settings × Outcome) := do
  let settings ← ws.loadSettings call.settingsPath? call.project
  let threshold := if call.isDebug then .debug else settings.journal.level
  return (settings, { journal := { threshold, json := settings.journal.json } })

/-- The settings as they are shown. -/
def settingsText (settings : Settings) : String :=
  settings.toData.json

/-! ## Commands -/

/-- What is printed about a compilation that succeeded. -/
def successText (done : Compiled) : String :=
  "[green]✓[/green] Input:  " ++ Markup.escape done.source.text.legible ++ "\n" ++
    "[green]✓[/green] Output: " ++ Markup.escape done.output.text.legible ++ "\n" ++
    "  " ++ toString done.testCount ++ " tests (" ++ done.target.name ++ ")"

/-- Compile a file, once the settings are known. -/
def compileWith (ws : Workspace) (call : Call) (settings : Settings) (outcome : Outcome) :
    Outcome × Workspace :=
  let input := call.argument 0
  let output := call.argument 1
  let (result, after) := compileFile call.target? settings input output ws
  let outcome := { outcome with events := Event.ofCompileFile ws input output result }
  match result with
  | .ok done =>
    (outcome.printBox "[green]Compilation Successful[/green]" (successText done), after)
  | .error failure => (outcome.printFailure failure input, after)

/-- Compile a file. -/
def runCompile (ws : Workspace) (call : Call) : Outcome × Workspace :=
  match configured ws call with
  | .error failure => (({} : Outcome).escaping (.settings failure), ws)
  | .ok (settings, outcome) =>
    let outcome :=
      if call.isDebug then outcome.print ("[dim]Config: " ++ settingsText settings ++ "[/dim]\n")
      else outcome
    if outcome.escape.isSome then (outcome, ws) else compileWith ws call settings outcome

/-- Check a file. -/
def runCheck (ws : Workspace) (call : Call) : Outcome :=
  match configured ws call with
  | .error failure => ({} : Outcome).escaping (.settings failure)
  | .ok (_, outcome) =>
    let path := call.argument 0
    let outcome := { outcome with events := Event.ofCheck ws path }
    match ws.checkFile path with
    | .ok program =>
      outcome.print ("[green]✓[/green] Valid: " ++ toString program.tests.length ++ " tests, " ++
        toString program.requestCount ++ " requests, " ++ toString program.assertionCount ++
        " assertions")
    | .error failure => outcome.printFailure failure path

/-- Print the tokens of a file as a table. -/
def runTokens (ws : Workspace) (call : Call) : Outcome :=
  let path := call.argument 0
  match ws.readSource path with
  | .error failure => ({} : Outcome).printFailure failure path
  | .ok source =>
    match tokenize source with
    | .error fault => ({} : Outcome).printError (.lexical fault) path
    | .ok tokens =>
      let rows := tokens.map fun token =>
        [token.position.text, token.kind.name, Markup.escape token.text]
      ({} : Outcome).printTable path.text.legible (["Pos", "Kind", "Text"] :: rows)

/-- The settings file that a new project starts with. -/
def initialSettings : String :=
  "\n".intercalate [
    "# testlang configuration",
    "version: \"0.1\"",
    "",
    "# Default target: python (pytest + httpx) | java (JUnit 5)",
    "target: python",
    "",
    "codegen:",
    "  # Prefix for every request path",
    "  base_url: \"http://localhost:8080\"",
    "",
    "  # Per-request timeout in seconds",
    "  timeout_seconds: 10",
    "",
    "  # Headers sent with every request",
    "  # default_headers:",
    "  #   Accept: application/json",
    "",
    "targets:",
    "  python:",
    "    # Name of the httpx client fixture",
    "    fixture_name: client",
    "  # java:",
    "  #   package: com.example.api",
    "  #   class_name: ApiTests  # defaults to the output file name",
    "",
    "logging:",
    "  # DEBUG | INFO | WARNING | ERROR",
    "  level: WARNING",
    "  # json: false",
    ""]

/-- The name of the settings file of a new project. -/
def initialName : String := "testlang.yaml"

/-- Create a settings file, unless there is one. -/
def runInit (ws : Workspace) : Outcome × Workspace :=
  let path := Path.ofText initialName
  if ws.hasEntry path then
    (({} : Outcome).print ("[yellow]-[/yellow] " ++ initialName ++ " already exists"), ws)
  else
    match Act.overwrite path (Text.encodeUtf8 initialSettings) ws with
    | .ok () after => (({} : Outcome).print ("[green]✓[/green] Created " ++ initialName), after)
    | .error error after => (({} : Outcome).escaping (.file error), after)

/-- Show the settings. -/
def runConfig (ws : Workspace) (call : Call) : Outcome :=
  match ws.loadSettings call.settingsPath? call.project with
  | .error failure => ({} : Outcome).escaping (.settings failure)
  | .ok settings => ({} : Outcome).printBox "testlang Config" (settingsText settings)

/-- Run a command. -/
def runCall (ws : Workspace) (call : Call) : Outcome × Workspace :=
  match call.command with
  | .compile => runCompile ws call
  | .check => (runCheck ws call, ws)
  | .tokens => (runTokens ws call, ws)
  | .init => runInit ws
  | .config => (runConfig ws call, ws)

/-- Run a call of the program. -/
def run (args : List String) (ws : Workspace) : Outcome × Workspace :=
  match Demand.ofArgs ws args with
  | .run call => runCall ws call
  | .help scope => ({ output := Screen.lines (Help.text scope) }, ws)
  | .version => ({ output := [programName ++ ", version " ++ programVersion] }, ws)
  | .nothing => ({ exitCode := 2, complaint := Screen.laidOutLines (Help.text .program) }, ws)
  | .faulty _ .nullPath => (({} : Outcome).escaping .nullPath, ws)
  | .faulty scope fault =>
    ({ exitCode := 2, complaint := Screen.laidOutLines (Screen.withoutCommands (fault.report scope)) }, ws)

end HttpSuite.Console
