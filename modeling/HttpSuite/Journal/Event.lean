import HttpSuite.Compile
import HttpSuite.Journal.Level

/-!
# Events

What a compilation reports about its progress. An event has a name, a level and named fields.
-/

namespace HttpSuite

/-- Something that happened during a compilation. -/
inductive Event
  | started (source output : Path)
  | parsed (tests : Nat)
  | validated (tests : Nat)
  | generated (target : Target) (size : Nat)
  | done (source output : Path) (target : Target) (tests : Nat)
  | failed (error : CompileError)
  deriving DecidableEq, Repr

namespace Event

/-- The name of an event. -/
def name : Event → String
  | .started .. => "compile.start"
  | .parsed _ => "stage.parsed"
  | .validated _ => "stage.validated"
  | .generated .. => "stage.generated"
  | .done .. => "compile.done"
  | .failed _ => "compile.failed"

/-- The level of an event. -/
def level : Event → Level
  | .done .. | .failed _ => .info
  | _ => .debug

/-- The fields of an event in the order of their names. -/
def fields : Event → List (String × Data)
  | .started source output => [("output", .ofRaw output.text), ("source", .ofRaw source.text)]
  | .parsed tests => [("tests", .int tests)]
  | .validated tests => [("tests", .int tests)]
  | .generated target size => [("size", .int size), ("target", .text target.name)]
  | .done source output target tests =>
    [("output", .ofRaw output.text), ("source", .ofRaw source.text), ("target", .text target.name),
      ("tests", .int tests)]
  | .failed error =>
    [("location", .ofOption error.diagnostic.location?), ("message", .ofRaw error.diagnostic.text),
      ("stage", .text error.stage.name)]

/-- The report of a failure; only one with a diagnostic is reported. -/
def ofFailure : Failure → List Event
  | .error error => [.failed error]
  | _ => []

/-- The report of an outcome. -/
def ofOutcome {α : Type} (report : α → List Event) : Except Failure α → List Event
  | .ok value => report value
  | .error failure => ofFailure failure

/-- What parsing and checking a text reports, failures aside. -/
def ofAnalysis (source : String) : List Event :=
  match parse source with
  | .error _ => []
  | .ok program =>
    let tests := program.tests.length
    match program.validate with
    | .error _ => [.parsed tests]
    | .ok _ => [.parsed tests, .validated tests]

/-- What a compilation reports. -/
def ofCompile (requested : Option Target) (settings : Settings)
    (sourceName outputName : Option RawText) (source : String) : List Event :=
  ofAnalysis source ++
    ofOutcome (fun text => [.generated (settings.targetFor requested) text.length])
      (compile requested settings sourceName outputName source)

end Event

end HttpSuite
