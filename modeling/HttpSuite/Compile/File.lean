import HttpSuite.Journal.Event
import HttpSuite.Text.LineEnd
import HttpSuite.Workspace.Draft

/-!
# Compiling files

The same stages as for a text, with a source that is read from a workspace and an output that is
written to it. Nothing is written before all stages have succeeded.

- `Workspace.readSource`: the text of a file, with one kind of line end.
- `Workspace.checkFile`: the well-formed program in a file.
- `compileFile`: one file into another.
-/

namespace HttpSuite

/-- What a file error makes of a compilation: a compile error, unless the file system was not asked. -/
def Failure.ofFile (error : FileError) (report : FileError → CompileError) : Failure :=
  match error.fault with
  | .nullCharacter => .nullPath
  | .unencodable fault => .unencodable fault
  | _ => .error (report error)

/-- The text of a source file. -/
def Workspace.readSource (ws : Workspace) (path : Path) : Except Failure String :=
  match ws.contents path with
  | .error error => .error (.ofFile error fun error => .unreadable path (.file error))
  | .ok bytes =>
    match Text.decodeUtf8 bytes with
    | .error fault => .error (.error (.unreadable path (.encoding fault)))
    | .ok text => .ok (String.ofList (Text.unifyLineEnds text.toList))

/-- The well-formed program in a file. -/
def Workspace.checkFile (ws : Workspace) (path : Path) : Except Failure Program := do
  analyze (← ws.readSource path)

/-- A finished compilation of a file. -/
structure Compiled where
  source : Path
  output : Path
  target : Target
  testCount : Nat
  text : RawText
  deriving DecidableEq, Repr

/-- The program in a file and the text that is generated for it. -/
def Workspace.prepare (ws : Workspace) (target : Target) (settings : Settings)
    (input output : Path) : Except Failure (Program × RawText) := do
  let program ← ws.checkFile input
  let text ← generate target settings (some input.name) (some output.name) program
  return (program, text)

/-- Write a generated text. -/
def Workspace.store (ws : Workspace) (text : RawText) (output : Path) :
    Except Failure Unit × Workspace :=
  match Act.writeOutput text output ws with
  | .ok () ws => (.ok (), ws)
  | .error error ws => (.error (.ofFile error fun error => .unwritable output (.file error)), ws)

/-- Generate the file for a program and write it. -/
def Workspace.generateFile (ws : Workspace) (target : Target) (settings : Settings)
    (sourceName : Option RawText) (program : Program) (output : Path) :
    Except Failure RawText × Workspace :=
  match generate target settings sourceName (some output.name) program with
  | .error failure => (.error failure, ws)
  | .ok text =>
    let (stored, ws) := ws.store text output
    (stored.map fun _ => text, ws)

/-- Compile one file into another. -/
def compileFile (requested : Option Target) (settings : Settings) (input output : Path)
    (ws : Workspace) : Except Failure Compiled × Workspace :=
  let target := settings.targetFor requested
  match ws.prepare target settings input output with
  | .error failure => (.error failure, ws)
  | .ok (program, text) =>
    let (stored, ws) := ws.store text output
    (stored.map fun _ => { source := input, output, target, testCount := program.tests.length, text },
      ws)

/-! ## Events -/

/-- What reading and analysing a file reports, failures aside. -/
def Event.ofFile (ws : Workspace) (path : Path) : List Event :=
  match ws.readSource path with
  | .error _ => []
  | .ok source => ofAnalysis source

/-- What checking a file reports. -/
def Event.ofCheck (ws : Workspace) (path : Path) : List Event :=
  ofFile ws path ++ ofOutcome (fun _ => []) (ws.checkFile path)

/-- What the compilation of a file reports, given its outcome. -/
def Event.ofCompileFile (ws : Workspace) (input output : Path) (outcome : Except Failure Compiled) :
    List Event :=
  .started input output :: (ofFile ws input ++
    ofOutcome (fun done => [.done done.source done.output done.target done.testCount]) outcome)

end HttpSuite
