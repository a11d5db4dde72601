import HttpSuite.Console.Command
import HttpSuite.Console.Similar
import HttpSuite.Workspace

/-!
# Arguments

The words of a call, which are texts, are split into options with their values and arguments. Then
options that end the run are acted on; the other options are checked in the order in which they were
given, the arguments after them, and last that there are not too many. The first fault is reported.

- `Words.read`: splitting.
- `Demand.ofArgs`: what a whole call asks for.
-/

namespace HttpSuite

/-- What may be wrong with a call. -/
inductive UsageFault
  | noSuchOption (name : String) (suggestions : List String)
  | valueMissing (name : String)
  | valueRefused (name : String)
  | missingArgument (name : String)
  | invalidValue (parameter reason : String)
  | extraArguments (words : List String)
  | noSuchCommand (name : String) (suggestions : List String)
  | missingCommand
  /-- A path holds a null character, so that nothing can be asked about it. -/
  | nullPath
  deriving DecidableEq, Repr

namespace UsageFault

/-- What is added to the wording of a fault to suggest names. -/
def suggesting : List String → String
  | [] => ""
  | [one] => " Did you mean " ++ Text.shown one ++ "?"
  | several => " (Did you mean one of: " ++ ", ".intercalate (several.map fun (name : String) => Text.shown name) ++ "?)"

/-- The wording of a usage fault. -/
def message : UsageFault → String
  | .noSuchOption name suggestions =>
    "No such option " ++ Text.shown name ++ "." ++ suggesting suggestions
  | .valueMissing name => "Option " ++ Text.shown name ++ " requires an argument."
  | .valueRefused name => "Option " ++ Text.shown name ++ " does not take a value."
  | .missingArgument name => "Missing argument '" ++ name ++ "'."
  | .invalidValue parameter reason => "Invalid value for " ++ parameter ++ ": " ++ reason
  | .extraArguments words =>
    (if words.length = 1 then "Got unexpected extra argument (" else
      "Got unexpected extra arguments (") ++ " ".intercalate words ++ ")"
  | .noSuchCommand name suggestions =>
    "No such command " ++ Text.shown name ++ "." ++ suggesting suggestions
  | .missingCommand => "Missing command."
  | .nullPath => "embedded null byte"

/-- Whether a fault is reported together with how a call is written. -/
def showsUsage : UsageFault → Bool
  | .valueMissing _ | .valueRefused _ => false
  | _ => true

/-- The text that reports a fault. -/
def report (fault : UsageFault) (scope : Scope) : String :=
  let hint :=
    if fault.showsUsage then
      scope.usage ++ "\nTry '" ++ scope.path ++ " " ++ Switch.help.long ++ "' for help.\n\n"
    else ""
  hint ++ "Error: " ++ fault.message

end UsageFault

/-! ## Words -/

/-- The options of a call in order, each with its value, and the other words. -/
structure Words where
  options : List (Switch × String) := []
  rest : List String := []
  deriving DecidableEq, Repr

namespace Words

/-- One more option in front. -/
def withOption (switch : Switch) (value : String) (words : Words) : Words :=
  { words with options := (switch, value) :: words.options }

/-- One more word in front. -/
def withWord (word : String) (words : Words) : Words :=
  { words with rest := word :: words.rest }

/-- An option as it stands in a call: the option, the name used for it, and the value that is
attached to it. -/
structure Spelled where
  switch : Switch
  name : String
  value : Option String

/-- Read a word that starts like an option. Long names come first; a word with a single dash is a short
name with its value attached. -/
def spelled (switches : List Switch) (word : String) : Except UsageFault Spelled :=
  let cs := word.toList
  let long := String.ofList (cs.takeWhile (· != '='))
  let attached := if cs.contains '=' then
    some (String.ofList ((cs.dropWhile (· != '=')).drop 1)) else none
  match switches.find? (·.long == long) with
  | some switch => .ok ⟨switch, long, attached⟩
  | none =>
    if "--".toList.isPrefixOf cs then
      .error (.noSuchOption long (Similar.suggestions (switches.map Switch.long) long))
    else
      let short := String.ofList (cs.take 2)
      match switches.find? (·.short? == some short) with
      | some switch =>
        .ok ⟨switch, short, if cs.length ≤ 2 then none else some (String.ofList (cs.drop 2))⟩
      | none => .error (.noSuchOption short [])

/-- Whether a word starts like an option. -/
def isOption (word : String) : Bool :=
  word.toList.head? == some '-' && 1 < word.length

/-- Split the words of a call. Two dashes end the options; unless options may stand anywhere, so does
the first other word. -/
def read (switches : List Switch) (anywhere : Bool) : List String → Except UsageFault Words
  | [] => .ok {}
  | word :: rest =>
    if word == "--" then .ok { rest }
    else if isOption word then
      match spelled switches word with
      | .error fault => .error fault
      | .ok ⟨switch, name, value⟩ =>
        match switch.requirement?, value with
        | none, some _ => .error (.valueRefused name)
        | none, none => (read switches anywhere rest).map (withOption switch "")
        | some _, some value => (read switches anywhere rest).map (withOption switch value)
        | some _, none =>
          match rest with
          | [] => .error (.valueMissing name)
          | value :: rest => (read switches anywhere rest).map (withOption switch value)
    else if anywhere then (read switches anywhere rest).map (withWord word)
    else .ok { rest := word :: rest }

/-- The last value of an option. -/
def value? (words : Words) (switch : Switch) : Option String :=
  words.options.reverse.lookup switch

/-- The first option that ends the run. -/
def eager? (words : Words) : Option Switch :=
  (words.options.find? (·.1.isEager)).map (·.1)

end Words

/-! ## Checks -/

/-- Why the value of a parameter is refused. -/
inductive Refusal
  | reason (text : String)
  | nullPath

/-- The fault of a parameter whose value is refused. -/
def Refusal.fault (parameter : String) : Refusal → UsageFault
  | .reason text => .invalidValue parameter text
  | .nullPath => .nullPath

/-- Why a file or directory is refused: it does not exist, it is of the other kind, or it may not be
read. -/
def Workspace.refusal? (ws : Workspace) (kind : String) (wantsDirectory mustExist : Bool)
    (word : String) : Option Refusal :=
  let about (problem : String) : Refusal :=
    .reason (kind ++ " " ++ Text.shown word ++ " " ++ problem ++ ".")
  match ws.inspectSpelling word with
  | .error .nullCharacter => some .nullPath
  | .error _ => if mustExist then some (about "does not exist") else none
  | .ok entry =>
    if entry.isDirectory && !wantsDirectory then some (about "is a directory")
    else if !entry.isDirectory && wantsDirectory then some (about "is a file")
    else if !entry.allows .read then some (about "is not readable")
    else none

/-- Why a word is not what is required. -/
def Requirement.refusal? (ws : Workspace) (word : String) : Requirement → Option Refusal
  | .existingFile => ws.refusal? "File" false true word
  | .outputFile => ws.refusal? "File" false false word
  | .existingDirectory => ws.refusal? "Directory" true true word
  | .oneOf choices =>
    if choices.contains word then none
    else some (.reason (Text.shown word ++ " is not one of " ++
      ", ".intercalate (choices.map fun choice => "'" ++ choice ++ "'") ++ "."))

/-- The first option whose value is not what is required. An option that is given again counts where
it was first given, with the value given last. -/
def Words.optionFault? (ws : Workspace) (words : Words) : Option UsageFault :=
  words.options.findSome? fun (switch, _) => do
    let requirement ← switch.requirement?
    let word ← words.value? switch
    let refusal ← requirement.refusal? ws word
    return refusal.fault switch.quotedNames

/-- The first argument that is missing or not what is required. -/
def argumentFault? (ws : Workspace) : List (String × Requirement) → List String → Option UsageFault
  | [], _ => none
  | (name, _) :: _, [] => some (.missingArgument name)
  | (name, requirement) :: arguments, word :: words =>
    match requirement.refusal? ws word with
    | some refusal => some (refusal.fault ("'" ++ name ++ "'"))
    | none => argumentFault? ws arguments words

/-! ## Calls -/

/-- A call that can be run. -/
structure Call where
  command : Command
  words : Words
  deriving DecidableEq, Repr

namespace Call

/-- An argument by its position. -/
def argument (call : Call) (position : Nat) : Path :=
  Path.ofText (call.words.rest.getD position "")

/-- The target that is asked for. -/
def target? (call : Call) : Option Target :=
  (call.words.value? .target).bind Target.ofName?

/-- The settings file that is asked for. -/
def settingsPath? (call : Call) : Option Path :=
  (call.words.value? .config).map fun (word : String) => Path.ofText word

/-- The directory of the project. -/
def project (call : Call) : Path :=
  Path.ofText ((call.words.value? .project).getD "")

/-- Whether everything is to be reported. -/
def isDebug (call : Call) : Bool :=
  (call.words.value? .debug).isSome

end Call

/-- What a call asks for. -/
inductive Demand
  | run (call : Call)
  | help (scope : Scope)
  | version
  /-- The program was called without anything. -/
  | nothing
  | faulty (scope : Scope) (fault : UsageFault)
  deriving DecidableEq, Repr

namespace Demand

/-- What an option that ends the run asks for. -/
def ofEager (scope : Scope) : Switch → Demand
  | .version => .version
  | _ => .help scope

/-- What a call of a command asks for. -/
def ofCommand (ws : Workspace) (command : Command) (args : List String) : Demand :=
  match Words.read command.switches true args with
  | .error fault => .faulty (.command command) fault
  | .ok words =>
    let extra := words.rest.drop command.arguments.length
    match words.eager?,
        words.optionFault? ws <|> argumentFault? ws command.arguments words.rest with
    | some switch, _ => ofEager (.command command) switch
    | none, some fault => .faulty (.command command) fault
    | none, none =>
      if extra.isEmpty then .run ⟨command, words⟩
      else .faulty (.command command) (.extraArguments extra)

/-- What a call without a known command asks for. The words are read once more, since a name that
follows two dashes may be an option. -/
def ofUnknown (name : String) (args : List String) : Demand :=
  match Words.read programSwitches false (name :: args) with
  | .error fault => .faulty .program fault
  | .ok words =>
    match words.eager? with
    | some switch => ofEager .program switch
    | none =>
      let suggestions := Similar.suggestions (Command.all.map Command.name) name
      .faulty .program (.noSuchCommand name suggestions)

/-- What a call of the program asks for. -/
def ofArgs (ws : Workspace) (args : List String) : Demand :=
  match args, Words.read programSwitches false args with
  | [], _ => .nothing
  | _, .error fault => .faulty .program fault
  | _, .ok words =>
    match words.eager?, words.rest with
    | some switch, _ => ofEager .program switch
    | none, [] => .faulty .program .missingCommand
    | none, name :: rest =>
      match Command.ofName? name with
      | some command => ofCommand ws command rest
      | none => ofUnknown name rest

end Demand

end HttpSuite
