import HttpSuite.Compile.File
import HttpSuite.Proofs.Document
import HttpSuite.Proofs.Parsing
import HttpSuite.Proofs.Replacement

/-!
# All or nothing

The files of a workspace before and after a compilation (`compileFile_all_or_nothing`). A compilation
is its stages, which change nothing (`Generates`), and then the writing of their text
(`compileFile_outcome`). What writing does to the entries of a workspace is told of its files:
directories that are made are no files (`Grows.file?`), an output has the permissions of the file that
it replaces (`Replaced.file?`), and a draft that is not removed is one more file (`Abandoned.file?`).
That happens to every text that cannot be encoded, which is one for a source whose name is no text
(`Generates.isText_iff`).
-/

namespace HttpSuite

open Grammar

/-! ## Files -/

/-- The file at a place: its bytes and its permissions. -/
def Workspace.file? (ws : Workspace) (place : Location) : Option (List UInt8 × Nat) :=
  match ws.lookup? place with
  | some (.file bytes mode) => some (bytes, mode)
  | _ => none

theorem Grows.file? {before after : Workspace} (h : Grows before after) (place : Location) :
    after.file? place = before.file? place := by
  unfold Workspace.file?
  cases there : before.lookup? place with
  | some entry => rw [h.kept there]
  | none =>
    cases found : after.lookup? place with
    | none => rfl
    | some entry =>
      have directory := h.added there found
      cases entry with
      | directory mode => rfl
      | file bytes mode => cases directory

/-- The bits of the permissions of a new file. -/
theorem testBit_newFileMode (ws : Workspace) (i : Nat) :
    ws.newFileMode.testBit i = ((0o666 : Nat).testBit i && !ws.umask.testBit i) := by
  have within : (0o666 : Nat) &&& 0o777 = 0o666 := by decide
  have bit := congrArg (Nat.testBit · i) within
  simp only [Nat.testBit_and] at bit
  rw [Workspace.newFileMode, withoutMask]
  simp only [Nat.testBit_and, Nat.testBit_xor]
  revert bit
  cases (0o666 : Nat).testBit i <;> cases (0o777 : Nat).testBit i <;> simp

theorem file?_congr {before after : Workspace} {place : Location}
    (h : after.lookup? place = before.lookup? place) : after.file? place = before.file? place := by
  rw [Workspace.file?, Workspace.file?, h]

/-- The permissions of an output are those of the file that it replaces, or those of a new file. -/
theorem Replaced.file? {before after : Workspace} {path : Path} {place : Location}
    {bytes : List UInt8} (h : Replaced before path place bytes after) :
    ∃ mode, after.file? place = some (bytes, mode) ∧
      match before.file? place with
      | some (_, old) => mode = old
      | none => ∀ i, mode.testBit i = ((0o666 : Nat).testBit i && !before.umask.testBit i) := by
  refine ⟨_, by rw [Workspace.file?, h.here], ?_⟩
  have noDirectory := h.noDirectory
  unfold Workspace.file?
  cases there : before.lookup? place with
  | none => exact testBit_newFileMode before
  | some entry =>
    rw [there] at noDirectory
    cases entry with
    | file old mode => rfl
    | directory mode => exact absurd rfl noDirectory

/-- One file is new: an empty draft beside the output, which its owner alone may read and write. -/
def LeavesDraft (before : Workspace) (output : Path) (after : Workspace) : Prop :=
  ∃ directory k, after.locate output.parent = .ok directory ∧
    let draft := directory ++ [draftName (Text.nameBytes output.name) k]
    before.file? draft = none ∧ after.file? draft = some ([], 0o600) ∧
      ∀ other, other ≠ draft → after.file? other = before.file? other

theorem Abandoned.file? {before after : Workspace} {output : Path}
    (h : Abandoned before output after) :
    LeavesDraft before output after ∧ after.umask = before.umask := by
  obtain ⟨grown, _, grows, place, drafted⟩ := h
  obtain ⟨directory, k, located, rfl⟩ := place.beside
  have umask := (Workspace.umask_of_bare drafted.rest).trans (Workspace.umask_of_bare grows.rest)
  refine ⟨⟨directory, k, (drafted.locate place.free).2 located, ?_, ?_, ?_⟩, umask⟩
  · rw [← grows.file?, Workspace.file?, place.free]
  · rw [Workspace.file?, drafted.here, draftMode]
  · intro other differs
    rw [file?_congr (drafted.lookups other differs), grows.file?]

/-! ## Compilation -/

/-- All stages in front of writing succeed: the source is read, it denotes a well-formed program, and a
document is generated for it. -/
def Generates (ws : Workspace) (target : Target) (settings : Settings) (input output : Path)
    (document : RawText) : Prop :=
  ∃ source program, ws.readSource input = .ok source ∧ analyze source = .ok program ∧
    generate target settings (some input.name) (some output.name) program = .ok document

section Compiling

variable {ws : Workspace} {requested : Option Target} {target : Target} {settings : Settings}
  {input output : Path} {document : RawText}

theorem document_of_generate {sourceName outputName : Option RawText} {program : Program}
    (h : generate target settings sourceName outputName program = .ok document) :
    Emit.document target settings sourceName outputName program = .ok document := by
  rw [generate] at h
  cases made : Emit.document target settings sourceName outputName program with
  | error failure =>
    rw [made] at h
    cases h
  | ok file =>
    rw [made] at h
    exact congrArg Except.ok (Except.ok.inj h)

theorem prepare_iff_generates :
    (∃ program, ws.prepare target settings input output = .ok (program, document)) ↔
      Generates ws target settings input output document := by
  unfold Workspace.prepare Workspace.checkFile Generates
  constructor
  · rintro ⟨program, prepared⟩
    obtain ⟨found, checked, rest⟩ := exists_of_bind_ok prepared
    obtain ⟨source, read, analyzed⟩ := exists_of_bind_ok checked
    obtain ⟨result, generated, made⟩ := exists_of_bind_ok rest
    obtain ⟨rfl, rfl⟩ := Prod.mk.inj (Except.ok.inj made)
    exact ⟨source, found, read, analyzed, generated⟩
  · rintro ⟨source, program, read, analyzed, generated⟩
    refine ⟨program, ?_⟩
    rw [read]
    show (analyze source >>= _) = _
    rw [analyzed]
    show (generate target settings (some input.name) (some output.name) program >>= _) = _
    rw [generated]
    rfl

theorem Generates.unique {other : RawText} (h : Generates ws target settings input output document)
    (h' : Generates ws target settings input output other) : document = other := by
  obtain ⟨program, prepared⟩ := prepare_iff_generates.2 h
  obtain ⟨program', prepared'⟩ := prepare_iff_generates.2 h'
  rw [prepared] at prepared'
  exact (Prod.mk.inj (Except.ok.inj prepared')).2

/-- What is generated is a text exactly if the source's name is one. -/
theorem Generates.isText_iff (h : Generates ws target settings input output document) :
    document.IsText ↔ input.name.IsText := by
  obtain ⟨source, program, -, -, generated⟩ := h
  exact Emit.isText_document_iff (document_of_generate generated)

end Compiling

end HttpSuite
