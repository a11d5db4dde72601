import HttpSuite.Diagnostic
import HttpSuite.Emit
import HttpSuite.Program.WellFormed

/-!
# Compilation

A text is parsed, the program is checked for its rules, and the file for the target that is asked for,
or else for the one that is set, is generated. The first stage that fails decides the outcome.

- `analyze`: parsing and checking.
- `compile`: all stages.
-/

namespace HttpSuite

/-- Why a compilation gives no result. Apart from errors that have a diagnostic, the value of a token
may be unreadable, an integer unwritable, and a timeout no number of milliseconds. -/
inductive Failure
  | error (error : CompileError)
  | value (token : UnreadableToken)
  | digits
  | timeout (fault : Emit.TimeoutFault)
  /-- A path holds a null character, so that it names no file. -/
  | nullPath
  /-- A path or a generated file holds a surrogate that cannot be encoded. -/
  | unencodable (fault : EncodingFault)
  deriving DecidableEq, Repr

/-- The failure of a compilation that cannot be parsed. -/
def Failure.ofParse : ParseFailure → Failure
  | .lexical fault => .error (.lexical fault)
  | .grammar fault => .error (.grammar fault)
  | .value token => .value token

/-- The failure of a compilation whose file cannot be generated. -/
def Failure.ofEmit : Emit.Failure → Failure
  | .digits => .digits
  | .timeout fault => .timeout fault
  | .className output stem => .error (.unwritable (Path.ofText output) (.className stem))

/-- The well-formed program that a text denotes. -/
def analyze (source : String) : Except Failure Program := do
  let program ← (parse source).mapError Failure.ofParse
  (program.validate).mapError fun violation => .error (.structural violation)

/-- The generated file for a program. -/
def generate (target : Target) (settings : Settings) (sourceName outputName : Option RawText)
    (program : Program) : Except Failure RawText :=
  (Emit.document target settings sourceName outputName program).mapError Failure.ofEmit

/-- The generated file for a text. -/
def compile (requested : Option Target) (settings : Settings) (sourceName outputName : Option RawText)
    (source : String) : Except Failure RawText := do
  generate (settings.targetFor requested) settings sourceName outputName (← analyze source)

end HttpSuite
