import HttpSuite.Proofs.Places

/-!
# Acts

What holds after an act, whether it is done or fails (`Act.Ensures`), is put together step by step:
one rule for each kind of step, and one statement for each act that is made of them. An act that makes
directories lets a workspace grow: everything that was there stays as it was, and only directories are
new (`Grows`).
-/

namespace HttpSuite

/-! ## Outcomes -/

namespace Act

/-- What holds after an act: `done` of its value and the workspace, or `failed` of its error and the
workspace. -/
def Ensures {α : Type} (act : Act α) (ws : Workspace) (done : α → Workspace → Prop)
    (failed : FileError → Workspace → Prop) : Prop :=
  match act ws with
  | .ok value after => done value after
  | .error error after => failed error after

section Rules

variable {α β : Type} {ws : Workspace} {act : Act α} {next : α → Act β}
  {done : β → Workspace → Prop} {failed : FileError → Workspace → Prop}

theorem Ensures.imp {before : α → Workspace → Prop} {stopped : FileError → Workspace → Prop}
    (h : act.Ensures ws before stopped) {after : α → Workspace → Prop}
    (ok : ∀ value ws', before value ws' → after value ws')
    (error : ∀ fault ws', stopped fault ws' → failed fault ws') : act.Ensures ws after failed := by
  unfold Ensures at h ⊢
  split at h
  · exact ok _ _ h
  · exact error _ _ h

theorem Ensures.bind {middle : α → Workspace → Prop} (h : act.Ensures ws middle failed)
    (rest : ∀ value ws', middle value ws' → (next value).Ensures ws' done failed) :
    (act >>= next).Ensures ws done failed := by
  unfold Ensures at h ⊢
  show match EStateM.bind act next ws with
    | .ok value after => done value after
    | .error error after => failed error after
  rw [EStateM.bind]
  cases outcome : act ws with
  | ok value after =>
    rw [outcome] at h
    exact rest value after h
  | error error after =>
    rw [outcome] at h
    exact h

theorem Ensures.catch {act : Act β} {handler : FileError → Act β}
    {stopped : FileError → Workspace → Prop} (h : act.Ensures ws done stopped)
    (rest : ∀ error ws', stopped error ws' → (handler error).Ensures ws' done failed) :
    (tryCatch act handler).Ensures ws done failed := by
  unfold Ensures at h ⊢
  show match EStateM.tryCatch act handler ws with
    | .ok value after => done value after
    | .error error after => failed error after
  rw [EStateM.tryCatch]
  cases outcome : act ws with
  | ok value after =>
    rw [outcome] at h
    exact h
  | error error after =>
    rw [outcome] at h
    exact rest error after h

theorem ensures_get {next : Workspace → Act β} (h : (next ws).Ensures ws done failed) :
    (get >>= next).Ensures ws done failed :=
  h

theorem ensures_stopIf {next : Unit → Act β} {obstacle : Bool} {error : FileError}
    (stop : obstacle = true → failed error ws)
    (go : obstacle = false → (next ()).Ensures ws done failed) :
    (stopIf obstacle error >>= next).Ensures ws done failed := by
  cases obstacle with
  | true => exact stop rfl
  | false => exact go rfl

theorem ensures_stopFor {next : Unit → Act β} {fault : Option FileFault}
    (stop : ∀ cause, fault = some cause → failed { fault := cause } ws)
    (go : fault = none → (next ()).Ensures ws done failed) :
    (stopFor fault >>= next).Ensures ws done failed := by
  cases fault with
  | some cause => exact stop cause rfl
  | none => exact go rfl

theorem ensures_permitted {next : Unit → Act β} {action : Action} {path target : Option RawText}
    (stop : ∀ fault, ws.refusal action = some fault → failed ⟨fault.val, path, target⟩ ws)
    (go : ws.refusal action = none → (next ()).Ensures ws done failed) :
    (permitted action path target >>= next).Ensures ws done failed := by
  have refused : (permitted action path target).Ensures ws
      (fun _ after => ws.refusal action = none ∧ after = ws) failed := by
    unfold permitted
    refine ensures_get ?_
    cases answer : ws.refusal action with
    | some fault => exact stop fault answer
    | none => exact ⟨rfl, rfl⟩
  refine refused.bind ?_
  rintro - _ ⟨none, rfl⟩
  exact go none

theorem ensures_orFail {path : RawText} {result : Except FileFault α}
    (stop : ∀ fault, result = .error fault → failed { fault, path := some path } ws)
    (go : ∀ value, result = .ok value → (next value).Ensures ws done failed) :
    (orFail path result >>= next).Ensures ws done failed := by
  cases result with
  | error fault => exact stop fault rfl
  | ok value => exact go value rfl

theorem ensures_mayAdd {next : Unit → Act β} {directory : Location} {path : RawText}
    (stop : ws.allowsAt directory .write = false → failed { fault := .denied, path := some path } ws)
    (go : ws.allowsAt directory .write = true → (next ()).Ensures ws done failed) :
    (mayAdd directory path >>= next).Ensures ws done failed := by
  show (stopIf (!ws.allowsAt directory .write) _ >>= next).Ensures ws done failed
  refine ensures_stopIf (fun denied => stop ?_) fun allowed => go ?_
  · simpa using denied
  · simpa using allowed

end Rules

end Act

/-! ## Directories -/

/-- A workspace without its entries. -/
def Workspace.bare (ws : Workspace) : Workspace :=
  { ws with entries := [] }

namespace Workspace

variable {before after : Workspace} (h : after.bare = before.bare)
include h

theorem home_of_bare : after.home = before.home :=
  (congrArg Workspace.home h :)

theorem umask_of_bare : after.umask = before.umask :=
  (congrArg Workspace.umask h :)

theorem refusal_of_bare : after.refusal = before.refusal :=
  (congrArg Workspace.refusal h :)

end Workspace

/-- Directories are new, at most. -/
structure Grows (before after : Workspace) : Prop where
  kept : ∀ {place entry}, before.lookup? place = some entry → after.lookup? place = some entry
  added : ∀ {place entry}, before.lookup? place = none → after.lookup? place = some entry →
    entry.isDirectory
  rest : after.bare = before.bare

namespace Grows

variable {before middle after : Workspace}

theorem refl (ws : Workspace) : Grows ws ws where
  kept h := h
  added none some := by
    rw [none] at some
    cases some
  rest := rfl

theorem trans (h : Grows before middle) (h' : Grows middle after) : Grows before after where
  kept some := h'.kept (h.kept some)
  added {place entry} none some := by
    cases between : middle.lookup? place with
    | none => exact h'.added between some
    | some found =>
      have same := h'.kept between
      rw [some] at same
      obtain rfl := Option.some.inj same
      exact h.added none between
  rest := h'.rest.trans h.rest

/-- A path that led somewhere still leads there. -/
theorem locate (h : Grows before after) {path : Path} {place : Location}
    (located : before.locate path = .ok place) : after.locate path = .ok place :=
  Workspace.locate_mono (fun _ _ => h.kept) (Workspace.home_of_bare h.rest) located

/-- A new directory. -/
theorem put {ws : Workspace} {place : Location} (h : ws.lookup? place = none) (mode : Nat) :
    Grows ws (ws.put place (.directory mode)) where
  kept {other entry} some := by
    have ne : other ≠ place := by
      rintro rfl
      rw [h] at some
      cases some
    rw [ws.lookup?_put (ws.ne_nil_of_lookup? h), if_neg ne, some]
  added {other entry} none some := by
    rw [ws.lookup?_put (ws.ne_nil_of_lookup? h)] at some
    split_ifs at some
    · obtain rfl := Option.some.inj some
      rfl
    · rw [none] at some
      cases some
  rest := rfl

end Grows

namespace Workspace

variable {ws : Workspace} {path : Path}

theorem not_isDirectory_of_inspect {fault : FileFault} (h : ws.inspect path = .error fault) :
    ¬ ws.isDirectory path := by
  rw [isDirectory, h]
  exact Bool.false_ne_true

theorem isDirectory_of_locate {place : Location} (h : ws.locate path = .ok place) :
    ws.isDirectory path = (ws.lookup? place).any Entry.isDirectory := by
  have found : ws.inspect path = ws.existing place := by
    rw [inspect, h]
    rfl
  rw [isDirectory, found, existing]
  cases ws.lookup? place <;> rfl

end Workspace

namespace Act

variable (ws : Workspace) (path : Path)

theorem ensures_freshPlace :
    (freshPlace path).Ensures ws (fun place after => ws = after ∧ ws.locate path = .ok place)
      fun error after => ws = after ∧ (ws.isDirectory path → error.fault = .exists) := by
  unfold freshPlace
  refine ensures_get ?_
  split
  · cases located : ws.locate path with
    | ok place => exact ⟨rfl, rfl⟩
    | error fault =>
      have missing : ws.inspect path = .error fault := by
        rw [Workspace.inspect, located]
        rfl
      exact ⟨rfl, fun there => absurd there (Workspace.not_isDirectory_of_inspect missing)⟩
  · refine ensures_orFail ?_ fun _ _ => ⟨rfl, fun _ => rfl⟩
    intro fault missing
    exact ⟨rfl, fun there => absurd there (Workspace.not_isDirectory_of_inspect missing)⟩

/-- Making a directory makes one that is not there, or does nothing. -/
theorem ensures_makeDirectory :
    (makeDirectory path).Ensures ws (fun _ after => Grows ws after ∧ ¬ ws.isDirectory path)
      fun error after => ws = after ∧ (ws.isDirectory path → error.fault = .exists) := by
  unfold makeDirectory
  refine (ensures_freshPlace ws path).bind ?_
  rintro place _ ⟨rfl, located⟩
  refine ensures_get (ensures_stopIf (fun _ => ⟨rfl, fun _ => rfl⟩) fun free => ?_)
  have none : ws.lookup? place = none := by simpa using free
  have missing : ¬ ws.isDirectory path := by
    rw [Workspace.isDirectory_of_locate located, none]
    exact Bool.false_ne_true
  refine ensures_mayAdd (fun _ => ⟨rfl, fun there => absurd there missing⟩) fun _ => ?_
  refine ensures_permitted (fun _ _ => ⟨rfl, fun there => absurd there missing⟩) fun _ => ?_
  exact ⟨Grows.put none ws.newDirectoryMode, missing⟩

/-- A directory that cannot be made is good if it is there. -/
theorem ensures_accept (error : FileError) :
    Ensures (do if (← get).isDirectory path then pure () else throw error) ws
      (fun _ after => Grows ws after ∧ (ws.isDirectory path → ws = after))
      fun _ after => Grows ws after ∧ ¬ ws.isDirectory path := by
  refine ensures_get ?_
  split
  · exact ⟨Grows.refl ws, fun _ => rfl⟩
  · rename_i other
    exact ⟨Grows.refl ws, other⟩

/-- Making sure of a directory makes one that is not there, or does nothing. -/
theorem ensures_ensureDirectory :
    (ensureDirectory path).Ensures ws
      (fun _ after => Grows ws after ∧ (ws.isDirectory path → ws = after))
      fun _ after => Grows ws after ∧ ¬ ws.isDirectory path := by
  unfold ensureDirectory
  refine Ensures.catch ((ensures_makeDirectory ws path).imp ?_ fun _ _ => id) ?_
  · rintro - after ⟨grown, missing⟩
    exact ⟨grown, fun there => absurd there missing⟩
  · rintro error _ ⟨rfl, -⟩
    exact ensures_accept ws path error

/-- Making sure of a directory and of those above it makes directories only, and none if it is
there. -/
theorem ensures_ensureDirectories (root : String) (parts : List RawText) :
    (ensureDirectories root parts).Ensures ws
      (fun _ after => Grows ws after ∧ (ws.isDirectory ⟨root, parts.reverse⟩ → ws = after))
      fun _ after => Grows ws after ∧ ¬ ws.isDirectory ⟨root, parts.reverse⟩ := by
  induction parts generalizing ws with
  | nil => exact ensures_ensureDirectory ws ⟨root, []⟩
  | cons part above ih =>
    unfold ensureDirectories
    refine Ensures.catch ((ensures_makeDirectory ws _).imp ?_ fun _ _ => id) ?_
    · rintro - after ⟨grown, missing⟩
      exact ⟨grown, fun there => absurd there missing⟩
    · rintro error _ ⟨rfl, there⟩
      split
      · rename_i none
        have missing : ¬ ws.isDirectory ⟨root, (part :: above).reverse⟩ := by
          intro found
          rw [there found] at none
          cases none
        refine Ensures.bind ((ih ws).imp (fun _ _ => And.left) ?_) ?_
        · exact fun _ _ grown => ⟨grown.1, missing⟩
        · intro _ middle grown
          refine (ensures_ensureDirectory middle _).imp ?_ ?_
          · exact fun _ _ made => ⟨grown.trans made.1, fun found => absurd found missing⟩
          · exact fun _ _ made => ⟨grown.trans made.1, missing⟩
      · exact ensures_accept ws _ error

end Act

end HttpSuite
