import HttpSuite.Settings
import HttpSuite.Text.Blocks
import HttpSuite.Text.LineEnd
import HttpSuite.Workspace
import HttpSuite.Yaml

/-!
# Settings files

Settings are kept in a YAML file. Without a given path the file is searched for under a few names in
the directory of the project; if there is none, the defaults apply. An empty document, or one whose
value counts as nothing, is one without settings.
-/

namespace HttpSuite

/-- Why settings cannot be read. -/
inductive SettingsFailure
  | file (error : FileError)
  | encoding (fault : Text.Utf8Fault)
  | document (fault : Yaml.Fault)
  | problems (problems : List Problem)
  deriving DecidableEq, Repr

/-- The names under which settings are searched for, in order. -/
def settingsNames : List String :=
  ["testlang.yaml", "testlang.yml", ".testlang.yaml", ".testlang.yml"]

/-- Whether a value counts as nothing. -/
def Data.isNothing : Data → Bool
  | .null | .bool false | .int 0 | .text "" | .list [] | .mapping [] | .bytes [] => true
  | .float (.finite _ 0 _) => true
  | _ => false

/-- Whether a path leads anywhere. A path that leads nowhere is no error, but one that cannot be
followed for another reason is. -/
def Workspace.leads (ws : Workspace) (path : Path) : Except SettingsFailure Bool :=
  match ws.inspect path with
  | .ok _ => .ok true
  | .error .noEntry | .error .notDirectory => .ok false
  | .error fault =>
    if fault.isUnasked then .ok false else .error (.file { fault, path := some path.text })

/-- The first path that leads anywhere. -/
def Workspace.firstPath? (ws : Workspace) : List Path → Except SettingsFailure (Option Path)
  | [] => .ok none
  | path :: rest => do if ← ws.leads path then return some path else ws.firstPath? rest

/-- The size of the blocks in which a settings file is read. -/
def settingsBlock : Nat := 8192

/-- The value of a settings file. Where it is no UTF-8 it is read as far as whole chunks of the document
can be decoded, and a fault before that comes first. -/
def settingsValue (bytes : List UInt8) : Except SettingsFailure Data :=
  let (decoded, encodingFault) := Text.decodeUtf8InBlocks settingsBlock bytes
  let cs := Text.unifyLineEnds decoded
  match encodingFault with
  | none => (Yaml.value true cs).mapError .document
  | some fault =>
    match Yaml.chunksBefore? cs.length with
    | none => .error (.encoding fault)
    | some chunks =>
      (Yaml.value false (cs.take (chunks * Yaml.chunkSize))).mapError fun found =>
        if found = .unfinished then .encoding fault else .document found

/-- The settings in a file. -/
def Workspace.settingsAt (ws : Workspace) (path : Path) : Except SettingsFailure Settings := do
  let bytes ← (ws.contents path).mapError .file
  let data ← settingsValue bytes
  match Settings.ofData (if data.isNothing then .mapping [] else data) with
  | .ok settings => .ok settings
  | .problems problems => .error (.problems problems)

/-- The settings at a path, or else those of the project in a directory. -/
def Workspace.loadSettings (ws : Workspace) (path : Option Path) (project : Path) :
    Except SettingsFailure Settings := do
  let found ← match path with
    | some path => ws.firstPath? [path]
    | none => ws.firstPath? (settingsNames.map fun (name : String) => project.join name)
  match found with
  | none => return {}
  | some path => ws.settingsAt path

end HttpSuite
