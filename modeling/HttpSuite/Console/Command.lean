import HttpSuite.Target

/-!
# Commands

The commands of the program with their arguments and options.
-/

namespace HttpSuite

/-- What the value of an argument or an option has to be. -/
inductive Requirement
  | existingFile
  /-- A file that need not exist yet. -/
  | outputFile
  | existingDirectory
  | oneOf (choices : List String)
  deriving DecidableEq, Repr

/-- The options of all commands. -/
inductive Switch
  | version
  | target
  | config
  | project
  | debug
  | help
  deriving DecidableEq, Repr

namespace Switch

/-- The long name of an option. -/
def long : Switch → String
  | .version => "--version"
  | .target => "--target"
  | .config => "--config"
  | .project => "--project"
  | .debug => "--debug"
  | .help => "--help"

/-- The short name of an option. -/
def short? : Switch → Option String
  | .target => some "-t"
  | .config => some "-c"
  | .project => some "-p"
  | _ => none

/-- What the value of an option has to be, if it takes one. -/
def requirement? : Switch → Option Requirement
  | .target => some (.oneOf (Target.aliases.map (·.1)))
  | .config => some .existingFile
  | .project => some .existingDirectory
  | _ => none

/-- How the value of an option is called in the help. -/
def valueName : Switch → String
  | .target => "[" ++ "|".intercalate (Target.aliases.map (·.1)) ++ "]"
  | .config => "FILE"
  | .project => "DIRECTORY"
  | _ => ""

/-- What an option does. -/
def description : Switch → String
  | .version => "Show the version and exit."
  | .target => "Target language. Defaults to the configured target (python)."
  | .config => "Path to testlang.yaml config file."
  | .project => "Project root directory. Defaults to current directory."
  | .debug => "Enable debug logging."
  | .help => "Show this message and exit."

/-- The names of an option in the help, the short one first. -/
def heading (switch : Switch) : String :=
  let names := ", ".intercalate (switch.short?.toList ++ [switch.long])
  if switch.valueName.isEmpty then names else names ++ " " ++ switch.valueName

/-- The names of an option in a complaint, the long one first. -/
def quotedNames (switch : Switch) : String :=
  " / ".intercalate (("'" ++ switch.long ++ "'") ::
    switch.short?.toList.map fun short => "'" ++ short ++ "'")

/-- Whether an option ends the run as soon as it is seen. -/
def isEager : Switch → Bool
  | .version | .help => true
  | _ => false

end Switch

/-- The commands. -/
inductive Command
  | check
  | compile
  | config
  | init
  | tokens
  deriving DecidableEq, Repr

namespace Command

/-- The commands in the order of their names. -/
def all : List Command := [.check, .compile, .config, .init, .tokens]

/-- The name of a command. -/
def name : Command → String
  | .check => "check"
  | .compile => "compile"
  | .config => "config"
  | .init => "init"
  | .tokens => "tokens"

/-- The command with a given name. -/
def ofName? (name : String) : Option Command :=
  all.find? (·.name == name)

/-- The arguments of a command, each with what it has to be. -/
def arguments : Command → List (String × Requirement)
  | .check | .tokens => [("SOURCE", .existingFile)]
  | .compile => [("SOURCE", .existingFile), ("OUTPUT", .outputFile)]
  | .config | .init => []

/-- The options of a command. -/
def switches : Command → List Switch
  | .check => [.config, .project, .debug, .help]
  | .compile => [.target, .config, .project, .debug, .help]
  | .config => [.config, .project, .help]
  | .init | .tokens => [.help]

/-- What a command does, in one line. -/
def summary : Command → String
  | .check => "Validate a TestLang++ file without generating code."
  | .compile => "Compile a TestLang++ file."
  | .config => "Show the current configuration."
  | .init => "Initialize testlang in the current directory."
  | .tokens => "Print the token stream of a TestLang++ file."

/-- What else there is to say about a command. -/
def remarks : Command → List String
  | .compile => ["SOURCE is the .test file to compile, OUTPUT the generated file to write."]
  | .init => ["Creates testlang.yaml with the default settings."]
  | _ => []

end Command

/-- The name of the program. -/
def programName : String := "testlang"

/-- The version of the program. -/
def programVersion : String := "0.1.0"

/-- The options of the program itself. -/
def programSwitches : List Switch := [.version, .help]

/-- What is being called: the program, or one of its commands. -/
inductive Scope
  | program
  | command (command : Command)
  deriving DecidableEq, Repr

namespace Scope

/-- How a call starts. -/
def path : Scope → String
  | .program => programName
  | .command called => programName ++ " " ++ called.name

/-- The line that says how a call is written. -/
def usage (scope : Scope) : String :=
  let tail := match scope with
    | .program => ["COMMAND", "[ARGS]..."]
    | .command called => called.arguments.map (·.1)
  " ".intercalate (["Usage:", scope.path, "[OPTIONS]"] ++ tail)

/-- The options of a call. -/
def switches : Scope → List Switch
  | .program => programSwitches
  | .command called => called.switches

end Scope

end HttpSuite
