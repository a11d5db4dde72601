import HttpSuite.Workspace.FileError
import HttpSuite.Workspace.Path

/-!
# Workspaces

A workspace is a tree of directories and files with permissions, the directory in which relative paths
start, and the permissions that new entries do not get. Names are bytes: a path leads to the entry whose
names have the bytes of its parts. Everything belongs to one owner, whose rights decide what can be done.
Besides what the tree rules out, a volume may refuse a step for reasons of its own, such as a lack of
space: `refusal` says which, and `spilled` how much is written all the same.

- `Workspace.locate`: the place that a path leads to.
- `Workspace.inspect`, `Workspace.contents`: what is there.
- `Act`: steps that may fail and may change the workspace; what was done before a failure stays.
-/

namespace HttpSuite

/-- The name of an entry, as a volume keeps it. -/
abbrev Name := List UInt8

/-- A place in a workspace: the names on the way to it from the root. -/
abbrev Location := List Name

/-- What may be at a place. -/
inductive Entry
  | directory (mode : Nat)
  | file (bytes : List UInt8) (mode : Nat)
  deriving DecidableEq, Repr

/-- What the owner of an entry may do with it. -/
inductive Right
  | read
  | write
  /-- Follow a path through a directory. -/
  | search
  deriving DecidableEq, Repr

/-- The bit of a mode that gives a right to the owner. -/
def Right.bit : Right → Nat
  | .read => 0o400
  | .write => 0o200
  | .search => 0o100

namespace Entry

/-- The permissions of an entry. -/
def mode : Entry → Nat
  | .directory mode => mode
  | .file _ mode => mode

/-- Whether the owner has a right. -/
def allows (entry : Entry) (right : Right) : Bool :=
  entry.mode &&& right.bit != 0

/-- Whether an entry is a directory. -/
def isDirectory : Entry → Bool
  | .directory _ => true
  | .file _ _ => false

/-- An entry with other permissions. -/
def withMode (mode : Nat) : Entry → Entry
  | .directory _ => .directory mode
  | .file bytes _ => .file bytes mode

end Entry

/-- The steps that a volume may refuse. -/
inductive Action
  | read (place : Location)
  | makeDirectory (place : Location)
  | create (place : Location)
  | fill (place : Location)
  | inspect (place : Location)
  | setMode (place : Location)
  | replace (place : Location)
  deriving DecidableEq, Repr

/-- A cause that a volume has to refuse a step. What is missing, and what it cannot be asked, is not
for the volume to say. -/
abbrev VolumeFault := { fault : FileFault // fault ≠ .noEntry ∧ fault.isUnasked = false }

/-- A tree of files. -/
structure Workspace where
  /-- Everything but the root, each place once. -/
  entries : List (Location × Entry) := []
  /-- The directory in which relative paths start. -/
  home : Location := []
  /-- The permissions that a new entry does not get. -/
  umask : Nat := 0o22
  /-- Why the volume refuses a step, if it does. -/
  refusal : Action → Option VolumeFault := fun _ => none
  /-- The number of bytes that are written to a file when the volume refuses to write all of them. -/
  spilled : Location → Nat := fun _ => 0

/-- What a mask leaves of permissions. -/
def withoutMask (mask mode : Nat) : Nat :=
  mode &&& (0o777 ^^^ (mask &&& 0o777))

namespace Workspace

/-- What is at a place. The root is always a directory. -/
def lookup? (ws : Workspace) (place : Location) : Option Entry :=
  if place.isEmpty then some (.directory 0o755) else ws.entries.lookup place

/-- Put an entry at a place. -/
def put (ws : Workspace) (place : Location) (entry : Entry) : Workspace :=
  { ws with entries := (place, entry) :: ws.entries.filter (·.1 != place) }

/-- Take away the entry at a place. -/
def erase (ws : Workspace) (place : Location) : Workspace :=
  { ws with entries := ws.entries.filter (·.1 != place) }

/-- The permissions of a new file. -/
def newFileMode (ws : Workspace) : Nat :=
  withoutMask ws.umask 0o666

/-- The permissions of a new directory. -/
def newDirectoryMode (ws : Workspace) : Nat :=
  withoutMask ws.umask 0o777

/-- Whether the owner has a right at a place. -/
def allowsAt (ws : Workspace) (place : Location) (right : Right) : Bool :=
  (ws.lookup? place).any (·.allows right)

/-! ## Places -/

/-- The greatest number of bytes in a name. -/
def maxNameBytes : Nat := 255

/-- The greatest number of bytes in a path. -/
def maxPathBytes : Nat := 4095

/-- The name that leads nowhere else. -/
def dot : Name := [0x2e]

/-- The name that leads to the directory above. -/
def dots : Name := [0x2e, 0x2e]

/-- Follow the parts of a path. Every place but the last must be a directory that may be searched; dots
stay where they are, and so do empty parts, which need no right. -/
def follow (ws : Workspace) : Location → List Name → Except FileFault Location
  | place, [] => .ok place
  | place, part :: rest =>
    match ws.lookup? place with
    | none => .error .noEntry
    | some (.file _ _) => .error .notDirectory
    | some (.directory mode) =>
      if part == [] then ws.follow place rest
      else if !(Entry.directory mode).allows .search then .error .denied
      else if part == dot then ws.follow place rest
      else if part == dots then ws.follow place.dropLast rest
      else if maxNameBytes < part.length then .error .nameTooLong
      else ws.follow (place ++ [part]) rest

/-- The place in which a path starts. -/
def start (ws : Workspace) (path : Path) : Location :=
  if path.root.isEmpty then ws.home else []

/-- The place that a path leads to, whether there is an entry or not. -/
def locate (ws : Workspace) (path : Path) : Except FileFault Location :=
  match FileFault.ofSpelling? path.text with
  | some fault => .error fault
  | none =>
    if maxPathBytes < (Text.nameBytes path.text).length then .error .nameTooLong
    else ws.follow (ws.start path) (path.parts.map Text.nameBytes)

/-- Names with slashes between them. -/
def spellNames (names : List Name) : RawText :=
  [Point.char '/'].intercalate (names.map Text.ofNameBytes)

/-- A place as a path from home, or from the root if it is not below home. -/
def spell (ws : Workspace) (place : Location) : RawText :=
  if ws.home.isPrefixOf place then spellNames (place.drop ws.home.length)
  else .char '/' :: spellNames place

/-- The entry at a place that must be there. -/
def existing (ws : Workspace) (place : Location) : Except FileFault Entry :=
  match ws.lookup? place with
  | some entry => .ok entry
  | none => .error .noEntry

/-- What a path leads to. -/
def inspect (ws : Workspace) (path : Path) : Except FileFault Entry := do
  ws.existing (← ws.locate path)

/-- What the spelling of a path leads to. Other than a path that was read from it, a spelling that ends
in a slash leads to a directory only, and the empty one leads nowhere. -/
def inspectSpelling (ws : Workspace) (text : RawText) : Except FileFault Entry :=
  match FileFault.ofSpelling? text with
  | some fault => .error fault
  | none =>
    if text.isEmpty then .error .noEntry
    else if maxPathBytes < (Text.nameBytes text).length then .error .nameTooLong
    else do
      let parts := (Path.splitSlashes text).map Text.nameBytes
      ws.existing (← ws.follow (ws.start (Path.ofText text)) parts)

/-- Whether a path leads to a directory. -/
def isDirectory (ws : Workspace) (path : Path) : Bool :=
  match ws.inspect path with
  | .ok entry => entry.isDirectory
  | .error _ => false

/-- Whether a path leads anywhere. -/
def hasEntry (ws : Workspace) (path : Path) : Bool :=
  (ws.inspect path).isOk

/-- The bytes of a file. -/
def contents (ws : Workspace) (path : Path) : Except FileError (List UInt8) :=
  let about (fault : FileFault) : FileError := { fault, path := some path.text }
  match ws.locate path with
  | .error fault => .error (about fault)
  | .ok place =>
    match ws.existing place, ws.refusal (.read place) with
    | .error fault, _ => .error (about fault)
    | .ok _, some fault => .error (about fault.val)
    | .ok entry, none =>
      if !entry.allows .read then .error (about .denied)
      else match entry with
        | .directory _ => .error (about .isDirectory)
        | .file bytes _ => .ok bytes

/-! ## Listing -/

/-- Whether everything above a place, up to home, can be listed. -/
def isListed (ws : Workspace) (place : Location) : Bool :=
  (List.range place.length).all fun depth =>
    depth ≤ ws.home.length || ws.allowsAt (place.take depth) .read

/-- Everything in a workspace that can be listed by its spelling, in order; a directory has a slash at
its end and no mode. -/
def listing (ws : Workspace) : List (RawText × Option Nat) :=
  let listed := ws.entries.filter fun (place, _) => ws.isListed place
  let lines := listed.map fun (place, entry) =>
    match entry with
    | .directory _ => (ws.spell place ++ [.char '/'], none)
    | .file _ mode => (ws.spell place, some mode)
  lines.mergeSort fun a b => !RawText.precedes b.1 a.1

/-- A mode in octal digits, at least three. -/
def modeText (mode : Nat) : String :=
  let digits := Nat.toDigits 8 mode
  String.ofList (List.replicate (3 - digits.length) '0' ++ digits)

end Workspace

/-! ## Steps -/

/-- A step in a workspace. -/
abbrev Act := EStateM FileError Workspace

namespace Act

/-- Stop if there is an obstacle. -/
def stopIf (obstacle : Bool) (error : FileError) : Act Unit :=
  if obstacle then throw error else return ()

/-- Stop if there is a fault. -/
def stopFor (fault : Option FileFault) : Act Unit :=
  match fault with
  | some fault => throw { fault }
  | none => return ()

/-- Stop if the volume refuses an action. -/
def permitted (action : Action) (path target : Option RawText := none) : Act Unit := do
  match (← get).refusal action with
  | some fault => throw { fault := fault.val, path, target }
  | none => return ()

/-- Go on with a value, or fail for a path. -/
def orFail {α : Type} (path : RawText) (result : Except FileFault α) : Act α :=
  match result with
  | .ok value => return value
  | .error fault => throw { fault, path := some path }

/-- The place at which a path may get a new entry: its last part is a name, and the part before it
leads to a directory. What has no name of its own is there already. -/
def freshPlace (path : Path) : Act Location := do
  let ws ← get
  if path.hasOwnName then
    orFail path.text (ws.locate path)
  else
    let _ ← orFail path.text (ws.inspect path)
    throw { fault := .exists, path := some path.text }

/-- Stop if the owner may not add an entry to a directory. -/
def mayAdd (directory : Location) (path : RawText) : Act Unit := do
  stopIf (!(← get).allowsAt directory .write) { fault := .denied, path := some path }

/-- Make a directory. -/
def makeDirectory (path : Path) : Act Unit := do
  let place ← freshPlace path
  stopIf ((← get).lookup? place).isSome { fault := .exists, path := some path.text }
  mayAdd place.dropLast path.text
  permitted (.makeDirectory place) (some path.text)
  modify fun ws => ws.put place (.directory ws.newDirectoryMode)

/-- Make a directory unless it is there. -/
def ensureDirectory (path : Path) : Act Unit := do
  try makeDirectory path
  catch error =>
    if (← get).isDirectory path then pure () else throw error

/-- Make a directory and those above it, as far as they are missing. The parts are given from the
last to the first. -/
def ensureDirectories (root : String) : List RawText → Act Unit
  | [] => ensureDirectory ⟨root, []⟩
  | part :: above => do
    let path : Path := ⟨root, (part :: above).reverse⟩
    try makeDirectory path
    catch error =>
      if error.fault = .noEntry then
        ensureDirectories root above
        ensureDirectory path
      else if (← get).isDirectory path then pure ()
      else throw error

/-- Write the bytes of a file. A volume that refuses may have taken the first of them. -/
def fill (place : Location) (bytes : List UInt8) (mode : Nat) : Act Unit := do
  let ws ← get
  match ws.refusal (.fill place) with
  | none => set (ws.put place (.file bytes mode))
  | some fault =>
    set (ws.put place (.file (bytes.take (ws.spilled place)) mode))
    throw { fault := fault.val }

/-- Write a file in place; a new one gets the usual permissions. -/
def overwrite (path : Path) (bytes : List UInt8) : Act Unit := do
  let ws ← get
  let place ← orFail path.text (ws.locate path)
  match ws.lookup? place with
  | some (.directory _) => throw { fault := .isDirectory, path := some path.text }
  | some (.file old mode) =>
    stopIf (!(Entry.file old mode).allows .write) { fault := .denied, path := some path.text }
    fill place bytes mode
  | none =>
    mayAdd place.dropLast path.text
    permitted (.create place) (some path.text)
    fill place bytes ws.newFileMode

/-- Set the permissions of the entry at a place. -/
def setModeAt (place : Location) (spelling : RawText) (mode : Nat) : Act Unit := do
  let entry ← orFail spelling ((← get).existing place)
  permitted (.setMode place) (some spelling)
  modify (·.put place (entry.withMode mode))

/-- Set the permissions of an entry. -/
def setMode (path : Path) (mode : Nat) : Act Unit := do
  let place ← orFail path.text ((← get).locate path)
  setModeAt place path.text mode

/-- Put another mask in the place of the one for new entries, which is told. -/
def exchangeMask (mask : Nat) : Act Nat :=
  modifyGet fun ws => (ws.umask, { ws with umask := mask })

/-- The mask for new entries. It is told only in exchange for another one, and so it is put back. -/
def currentMask : Act Nat := do
  let mask ← exchangeMask 0
  let _ ← exchangeMask mask
  return mask

end Act

end HttpSuite
