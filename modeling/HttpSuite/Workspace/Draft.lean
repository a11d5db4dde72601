import HttpSuite.Text.Utf8
import HttpSuite.Workspace

/-!
# Writing through a draft

An output is first written in full to a draft beside it, which then takes its place in one step. So
there is never a half-written output, and a failure leaves the old one as it was. The output keeps the
permissions of the file it replaces. Directories that had to be made stay, and so does the empty draft
of a text that cannot be encoded.
-/

namespace HttpSuite

/-- The tag of a draft: a number of eight digits or more. -/
def draftTag (k : Nat) : String :=
  let digits := Nat.toDigits 10 k
  String.ofList (List.replicate (8 - digits.length) '0' ++ digits)

/-- The name of the draft of an output. -/
def draftName (name : Name) (k : Nat) : Name :=
  Text.encodeUtf8 "." ++ name ++ Text.encodeUtf8 ("." ++ draftTag k ++ ".tmp")

/-- The first draft of a name that is free in a directory. There are more numbers to choose from than
entries. -/
def Workspace.freeDraft (ws : Workspace) (directory : Location) (name : Name) : Location :=
  let candidates := (List.range (ws.entries.length + 1)).map fun k => directory ++ [draftName name k]
  (candidates.find? fun place => (ws.lookup? place).isNone).getD directory

/-- The permissions of a draft: its owner alone may read and write it. -/
def draftMode : Nat := 0o600

/-- How the path of a draft starts: with its directory, a dot and the name of the output. -/
def draftSpelling (directory : Location) (name : RawText) : RawText :=
  directory.flatMap (fun part => .char '/' :: Text.ofNameBytes part) ++ "/." ++ name

namespace Act

/-- Create an empty draft for an output. -/
def createDraft (path : Path) : Act Location := do
  let ws ← get
  let directory ← orFail path.parent.text (ws.locate path.parent)
  let draft := ws.freeDraft directory (Text.nameBytes path.name)
  let spelling := ws.spell draft
  stopFor (FileFault.ofSpelling? (draftSpelling directory path.name))
  stopIf (!ws.allowsAt directory .search) { fault := .denied, path := some spelling }
  stopIf (Workspace.maxNameBytes < (draft.getLast?.getD []).length)
    { fault := .nameTooLong, path := some spelling }
  mayAdd directory spelling
  permitted (.create draft) (some spelling)
  set (ws.put draft (.file [] draftMode))
  return draft

/-- The permissions that an output will have: those of what it replaces, or those of a new file. -/
def outputMode (path : Path) : Act Nat := do
  let ws ← get
  match ws.locate path with
  | .error .noEntry => return withoutMask (← currentMask) 0o666
  | .error fault => throw { fault, path := some path.text }
  | .ok place =>
    permitted (.inspect place) (some path.text)
    match ws.lookup? place with
    | some entry => return entry.mode
    | none => return withoutMask (← currentMask) 0o666

/-- Put a draft in the place of the output. -/
def replaceBy (draft : Location) (path : Path) : Act Unit := do
  let ws ← get
  let about (fault : FileFault) : FileError :=
    { fault, path := some (ws.spell draft), target := some path.text }
  stopIf (!path.hasOwnName) (about .busy)
  match ws.locate path, ws.existing draft with
  | .error fault, _ => throw (about fault)
  | .ok _, .error fault => throw (about fault)
  | .ok place, .ok entry =>
    stopIf ((ws.lookup? place).any Entry.isDirectory) (about .isDirectory)
    permitted (.replace place) (some (ws.spell draft)) (some path.text)
    set ((ws.erase draft).put place entry)

/-- Fill a draft and let it take the place of the output. -/
def finishDraft (draft : Location) (bytes : List UInt8) (path : Path) : Act Unit := do
  fill draft bytes draftMode
  let mode ← outputMode path
  setModeAt draft ((← get).spell draft) mode
  replaceBy draft path

/-- Write the bytes of a document to a draft and let it take the place of the output. -/
def commit (draft : Location) (document : RawText) (path : Path) : Act Unit :=
  match document.toText with
  | .error fault => throw { fault := .unencodable fault }
  | .ok text => finishDraft draft (Text.encodeUtf8 text) path

/-- Write an output through a draft. A draft is removed if the file system does not let it take its
place, but not if the file system was not asked. -/
def writeOutput (document : RawText) (path : Path) : Act Unit := do
  ensureDirectories path.root path.parent.parts.reverse
  let draft ← createDraft path
  try commit draft document path
  catch error =>
    if error.fault.isUnasked then throw error
    else
      modify (·.erase draft)
      throw error

end Act

end HttpSuite
