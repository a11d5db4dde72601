import HttpSuite.Proofs.Acts

/-!
# Replacement of an output

What writing an output does to a workspace (`ensures_writeOutput`), act by act:

* **directories** — what is made in front of the draft is directories only;
* **the draft** — from its creation on, all that changes is what is at its place, which was free
  (`Drafted`); where the output is does not depend on it (`Drafted.locate`);
* **the exchange** — the draft leaves its place and takes that of the output (`Replaced`).

Whichever act fails, it meets an obstacle: in a workspace that has none (`Unobstructed`), the output is
written. Only the encoding of a document that is no text fails without one, and then the empty draft is
not removed (`Abandoned`).
-/

namespace HttpSuite

/-! ## Drafts in a workspace -/

/-- The volume refuses nothing. -/
def Willing (ws : Workspace) : Prop :=
  ∀ action, ws.refusal action = none

theorem not_willing_of_refusal {ws : Workspace} {action : Action} {fault : VolumeFault}
    (h : ws.refusal action = some fault) : ¬ Willing ws := by
  intro willing
  rw [willing] at h
  cases h

/-- Two workspaces differ in what is at one place, and in nothing else. -/
structure AgreeOff (place : Location) (before after : Workspace) : Prop where
  lookups : ∀ other, other ≠ place → after.lookup? other = before.lookup? other
  rest : after.bare = before.bare

/-- A place at which a draft of an output can be. -/
structure DraftPlace (ws : Workspace) (path : Path) (draft : Location) : Prop where
  beside : ∃ directory k, ws.locate path.parent = .ok directory ∧
    draft = directory ++ [draftName (Text.nameBytes path.name) k]
  free : ws.lookup? draft = none
  spelled : FileFault.ofSpelling? path.text = none

/-- A workspace with a draft in it. -/
structure Drafted (before : Workspace) (draft : Location) (bytes : List UInt8) (mode : Nat)
    (after : Workspace) : Prop extends AgreeOff draft before after where
  here : after.lookup? draft = some (.file bytes mode)

theorem AgreeOff.refl (place : Location) (ws : Workspace) : AgreeOff place ws ws :=
  ⟨fun _ _ => rfl, rfl⟩

namespace DraftPlace

variable {ws : Workspace} {path : Path} {draft : Location}

theorem ne_nil (h : DraftPlace ws path draft) : draft ≠ [] :=
  ws.ne_nil_of_lookup? h.free

/-- The output has another place. -/
theorem ne_of_locate (h : DraftPlace ws path draft) (parts : path.parts ≠ []) {place : Location}
    (located : ws.locate path = .ok place) : place ≠ draft := by
  obtain ⟨directory, k, parent, rfl⟩ := h.beside
  exact Workspace.locate_ne_draft parts parent located k

/-- What is written to the draft changes nothing else. -/
theorem drafted_put {after : Workspace} (h : DraftPlace ws path draft)
    (agree : AgreeOff draft ws after) (bytes : List UInt8) (mode : Nat) :
    Drafted ws draft bytes mode (after.put draft (.file bytes mode)) where
  lookups other ne := by
    rw [after.lookup?_put h.ne_nil, if_neg ne, agree.lookups other ne]
  rest := agree.rest
  here := by
    rw [after.lookup?_put h.ne_nil, if_pos rfl]

/-- Without its draft, a workspace is what it was. -/
theorem grows_erase {after : Workspace} (h : DraftPlace ws path draft)
    (agree : AgreeOff draft ws after) : Grows ws (after.erase draft) := by
  have same : ∀ other, (after.erase draft).lookup? other = ws.lookup? other := by
    intro other
    rw [after.lookup?_erase h.ne_nil]
    split_ifs with draft
    · rw [draft, h.free]
    · exact agree.lookups other draft
  refine ⟨fun some => (same _).trans some, fun none some => ?_, agree.rest⟩
  rw [same, none] at some
  cases some

end DraftPlace

namespace Drafted

variable {ws after : Workspace} {path : Path} {draft : Location} {bytes : List UInt8} {mode : Nat}

/-- A draft is no directory, so paths lead where they led. -/
theorem locate (h : Drafted ws draft bytes mode after) (free : ws.lookup? draft = none)
    {place : Location} : after.locate path = .ok place ↔ ws.locate path = .ok place := by
  have home := Workspace.home_of_bare h.rest
  constructor
  · refine Workspace.locate_mono ?_ home.symm
    intro other mode there
    have ne : other ≠ draft := by
      rintro rfl
      rw [h.here] at there
      cases there
    rwa [h.lookups other ne] at there
  · refine Workspace.locate_mono ?_ home
    intro other mode there
    have ne : other ≠ draft := by
      rintro rfl
      rw [free] at there
      cases there
    rwa [h.lookups other ne]

theorem isDirectory (h : Drafted ws draft bytes mode after) (free : ws.lookup? draft = none) :
    after.isDirectory path = ws.isDirectory path := by
  cases located : ws.locate path with
  | ok place =>
    rw [Workspace.isDirectory_of_locate located,
      Workspace.isDirectory_of_locate ((h.locate free).2 located)]
    by_cases same : place = draft
    · rw [same, h.here, free]
      rfl
    · rw [h.lookups place same]
  | error fault =>
    cases other : after.locate path with
    | ok place =>
      rw [h.locate free, located] at other
      cases other
    | error _ =>
      rw [Workspace.isDirectory, Workspace.isDirectory, Workspace.inspect, Workspace.inspect, located,
        other]
      rfl

theorem willing (h : Drafted ws draft bytes mode after) (willing : Willing ws) : Willing after := by
  intro action
  rw [Workspace.refusal_of_bare h.rest, willing]

end Drafted

/-! ## The exchange -/

/-- A workspace in which a file has taken the place of an output, with the permissions of what was
there. The volume let it. -/
structure Replaced (before : Workspace) (path : Path) (place : Location) (bytes : List UInt8)
    (after : Workspace) : Prop where
  led : before.locate path = .ok place
  leads : after.locate path = .ok place
  others : ∀ other, other ≠ place → after.lookup? other = before.lookup? other
  here : after.lookup? place =
    some (.file bytes (((before.lookup? place).map Entry.mode).getD before.newFileMode))
  noDirectory : ¬ (before.lookup? place).any Entry.isDirectory
  permitted : before.refusal (.replace place) = none
  rest : after.bare = before.bare

/-- A draft takes the place of the output. -/
theorem Drafted.replaced {start ws : Workspace} {path : Path} {draft place : Location}
    {bytes : List UInt8} {mode : Nat} (h : Drafted start draft bytes mode ws)
    (hd : DraftPlace start path draft) (located : start.locate path = .ok place)
    (noDirectory : ¬ start.isDirectory path) (permitted : ws.refusal (.replace place) = none)
    (keeps : mode = ((start.lookup? place).map Entry.mode).getD start.newFileMode) :
    Replaced start path place bytes ((ws.erase draft).put place (.file bytes mode)) := by
  rw [Workspace.isDirectory_of_locate located] at noDirectory
  have ne : place ≠ [] := by
    rintro rfl
    exact noDirectory rfl
  have lookups : ∀ other, ((ws.erase draft).put place (.file bytes mode)).lookup? other =
      if other = place then some (.file bytes mode) else start.lookup? other := by
    intro other
    rw [Workspace.lookup?_put _ ne, Workspace.lookup?_erase _ hd.ne_nil]
    split_ifs with same free
    · rfl
    · rw [free, hd.free]
    · exact h.lookups other free
  have lets : start.refusal (.replace place) = none := by
    rw [← Workspace.refusal_of_bare h.rest, permitted]
  refine ⟨located, ?_, fun other differs => ?_, ?_, noDirectory, lets, h.rest⟩
  · have home : ((ws.erase draft).put place (.file bytes mode)).home = start.home :=
      Workspace.home_of_bare h.rest
    refine Workspace.locate_mono ?_ home located
    intro other mode there
    have differs : other ≠ place := by
      rintro rfl
      rw [there] at noDirectory
      exact noDirectory rfl
    rw [lookups, if_neg differs, there]
  · rw [lookups, if_neg differs]
  · rw [lookups, if_pos rfl, keeps]

/-- The empty draft of an output stays behind. -/
def Abandoned (before : Workspace) (path : Path) (after : Workspace) : Prop :=
  ∃ grown draft, Grows before grown ∧ DraftPlace grown path draft ∧
    Drafted grown draft [] draftMode after

/-! ## Obstacles -/

/-- Nothing keeps an output from being written: its directory is there and may be changed, its name is
one that a file and a draft of it can have, and no directory has it. -/
structure Unobstructed (ws : Workspace) (path : Path) : Prop where
  willing : Willing ws
  parent : ∃ directory, ws.locate path.parent = .ok directory ∧
    (ws.lookup? directory).any Entry.isDirectory ∧ ws.allowsAt directory .search ∧
    ws.allowsAt directory .write ∧ FileFault.ofSpelling? (draftSpelling directory path.name) = none
  name : Text.nameBytes path.name ∉ [[], Workspace.dot, Workspace.dots]
  short : (Text.nameBytes path.text).length ≤ Workspace.maxPathBytes ∧
    ∀ k ≤ ws.entries.length,
      (draftName (Text.nameBytes path.name) k).length ≤ Workspace.maxNameBytes
  noDirectory : ¬ ws.isDirectory path

/-- An output with no obstacle has a name of its own. -/
theorem Unobstructed.hasOwnName {ws : Workspace} {path : Path} (h : Unobstructed ws path) :
    path.parts ≠ [] ∧ path.hasOwnName := by
  have other : ∀ name, path.name = name →
      Text.nameBytes name ∉ [[], Workspace.dot, Workspace.dots] := by
    rintro name rfl
    exact h.name
  have parts : path.parts ≠ [] := by
    intro empty
    have unnamed : path.name = [] := by
      rw [Path.name, empty]
      rfl
    exact other [] unnamed (by decide)
  refine ⟨parts, ?_⟩
  have dots : path.name ≠ [.char '.', .char '.'] := fun same => other _ same (by decide)
  simp [Path.hasOwnName, parts, dots]

/-- An output with no obstacle has a place. -/
theorem Unobstructed.exists_locate {ws : Workspace} {path : Path} (h : Unobstructed ws path) :
    ∃ place, ws.locate path = .ok place := by
  obtain ⟨directory, located, there, search, -, named⟩ := h.parent
  have spelled := Path.spelled_of_parent (Workspace.spelled_of_locate located)
    (spelled_of_draftSpelling named)
  have above : ws.follow (ws.start path) (path.parent.parts.map Text.nameBytes) = .ok directory :=
    Workspace.follow_of_locate located
  have fits : (Text.nameBytes path.name).length ≤ Workspace.maxNameBytes := by
    have drafts := h.short.2 0 (Nat.zero_le _)
    simp only [draftName, List.length_append] at drafts
    omega
  refine ⟨directory ++ [Text.nameBytes path.name], ?_⟩
  rw [Workspace.locate_eq spelled, if_neg (by simpa using h.short.1),
    path.parts_eq_append h.hasOwnName.1, List.map_append, Workspace.follow_append, above]
  show ws.follow directory [Text.nameBytes path.name] = _
  obtain ⟨empty, dot, dots⟩ : Text.nameBytes path.name ≠ [] ∧
      Text.nameBytes path.name ≠ Workspace.dot ∧ Text.nameBytes path.name ≠ Workspace.dots := by
    simpa using h.name
  rw [Workspace.allowsAt] at search
  rw [Workspace.follow]
  cases here : ws.lookup? directory with
  | none =>
    rw [here] at there
    cases there
  | some entry =>
    rw [here] at there search
    cases entry with
    | file bytes mode => cases there
    | directory mode =>
      have allowed : (Entry.directory mode).allows .search = true := search
      simp [empty, dot, dots, allowed, fits, Workspace.follow]

/-! ## The acts of writing -/

namespace Act

variable (ws : Workspace) (path : Path)

theorem ensures_createDraft :
    (createDraft path).Ensures ws
      (fun draft after => DraftPlace ws path draft ∧ Drafted ws draft [] draftMode after)
      fun _ after => ws = after ∧ ¬ Unobstructed ws path := by
  unfold createDraft
  refine ensures_get (ensures_orFail ?_ fun directory located => ?_)
  · intro fault missing
    refine ⟨rfl, fun clear => ?_⟩
    obtain ⟨directory, located, -⟩ := clear.parent
    rw [missing] at located
    cases located
  obtain ⟨k, hk, chosen, free⟩ := exists_freeDraft ws directory (Text.nameBytes path.name)
  rw [chosen]
  -- an output without obstacles has the same directory, and none of the stops applies
  have parent : Unobstructed ws path →
      ws.allowsAt directory .search ∧ ws.allowsAt directory .write ∧
        FileFault.ofSpelling? (draftSpelling directory path.name) = none := by
    intro clear
    obtain ⟨other, found, -, rights⟩ := clear.parent
    rw [located] at found
    obtain rfl := Except.ok.inj found
    exact rights
  refine ensures_stopFor (fun fault refused => ⟨rfl, fun clear => ?_⟩) fun named => ?_
  · rw [(parent clear).2.2] at refused
    cases refused
  refine ensures_stopIf (fun denied => ⟨rfl, fun clear => ?_⟩) fun _ => ?_
  · simp [(parent clear).1] at denied
  refine ensures_stopIf (fun long => ⟨rfl, fun clear => ?_⟩) fun _ => ?_
  · have fits := clear.short.2 k hk
    rw [List.getLast?_concat, Option.getD_some, decide_eq_true_eq] at long
    omega
  refine ensures_mayAdd (fun denied => ⟨rfl, fun clear => ?_⟩) fun _ => ?_
  · simp [(parent clear).2.1] at denied
  refine ensures_permitted (fun fault refused => ⟨rfl, fun clear => ?_⟩) fun _ => ?_
  · exact not_willing_of_refusal refused clear.willing
  have spelled := Path.spelled_of_parent (Workspace.spelled_of_locate located)
    (spelled_of_draftSpelling named)
  have draft : DraftPlace ws path (directory ++ [draftName (Text.nameBytes path.name) k]) :=
    ⟨⟨directory, k, located, rfl⟩, free, spelled⟩
  exact ⟨draft, draft.drafted_put (AgreeOff.refl _ ws) [] draftMode⟩

theorem ensures_fill (place : Location) (bytes : List UInt8) (mode : Nat) :
    (fill place bytes mode).Ensures ws (fun _ after => after = ws.put place (.file bytes mode))
      fun error after => error.fault.isUnasked = false ∧ ¬ Willing ws ∧
        ∃ part, after = ws.put place (.file part mode) := by
  unfold fill
  refine ensures_get ?_
  cases answer : ws.refusal (.fill place) with
  | none => exact rfl
  | some fault =>
    exact ⟨fault.property.2, not_willing_of_refusal answer, _, rfl⟩

/-- The mask is put back. -/
theorem ensures_currentMask {β : Type} {next : Nat → Act β} {done : β → Workspace → Prop}
    {failed : FileError → Workspace → Prop} (h : (next ws.umask).Ensures ws done failed) :
    (currentMask >>= next).Ensures ws done failed :=
  h

/-- The permissions of an output are those of what is in its place. -/
theorem ensures_outputMode (spelled : FileFault.ofSpelling? path.text = none) :
    (outputMode path).Ensures ws
      (fun mode after => ws = after ∧ ∀ place, ws.locate path = .ok place →
        mode = ((ws.lookup? place).map Entry.mode).getD ws.newFileMode)
      fun error after => ws = after ∧ error.fault.isUnasked = false ∧
        ∀ place, ws.locate path = .ok place → ¬ Willing ws := by
  unfold outputMode
  refine ensures_get ?_
  split
  · rename_i missing
    refine ensures_currentMask ws ⟨rfl, fun place found => ?_⟩
    rw [missing] at found
    cases found
  · rename_i fault _ missing
    refine ⟨rfl, Workspace.isUnasked_of_locate spelled missing, fun place found => ?_⟩
    rw [missing] at found
    cases found
  · rename_i place located
    refine ensures_permitted ?_ fun _ => ?_
    · intro fault refused
      exact ⟨rfl, fault.property.2, fun _ _ => not_willing_of_refusal refused⟩
    · have same : ∀ other, ws.locate path = .ok other → other = place := by
        intro other found
        rw [located] at found
        exact (Except.ok.inj found).symm
      cases here : ws.lookup? place with
      | some entry =>
        refine ⟨rfl, fun other found => ?_⟩
        rw [same other found, here]
        rfl
      | none =>
        refine ensures_currentMask ws ⟨rfl, fun other found => ?_⟩
        rw [same other found, here]
        rfl

theorem ensures_setModeAt {place : Location} {entry : Entry} (here : ws.lookup? place = some entry)
    (spelling : RawText) (mode : Nat) :
    (setModeAt place spelling mode).Ensures ws
      (fun _ after => after = ws.put place (entry.withMode mode))
      fun error after => ws = after ∧ error.fault.isUnasked = false ∧ ¬ Willing ws := by
  have there : ws.existing place = .ok entry := by
    rw [Workspace.existing, here]
  unfold setModeAt
  refine ensures_get ?_
  rw [there]
  refine ensures_permitted (fun fault refused => ?_) fun _ => rfl
  exact ⟨rfl, fault.property.2, not_willing_of_refusal refused⟩

theorem ensures_replaceBy (spelled : FileFault.ofSpelling? path.text = none) {draft : Location}
    {entry : Entry} (here : ws.lookup? draft = some entry) :
    (replaceBy draft path).Ensures ws
      (fun _ after => path.parts ≠ [] ∧ ¬ ws.isDirectory path ∧ ∃ place,
        ws.locate path = .ok place ∧ ws.refusal (.replace place) = none ∧
          after = (ws.erase draft).put place entry)
      fun error after => ws = after ∧ error.fault.isUnasked = false ∧
        ∀ place, ws.locate path = .ok place → path.hasOwnName → ¬ ws.isDirectory path →
          ¬ Willing ws := by
  have there : ws.existing draft = .ok entry := by
    rw [Workspace.existing, here]
  unfold replaceBy
  refine ensures_get (ensures_stopIf (fun unnamed => ⟨rfl, rfl, fun place _ named => ?_⟩) fun named => ?_)
  · rw [named] at unnamed
    cases unnamed
  rw [there]
  cases located : ws.locate path with
  | error fault =>
    exact ⟨rfl, Workspace.isUnasked_of_locate spelled located, fun place found => (by cases found)⟩
  | ok place =>
    have directory := Workspace.isDirectory_of_locate located
    refine ensures_stopIf (fun found => ⟨rfl, rfl, fun _ _ _ free => ?_⟩) fun free => ?_
    · exact absurd (directory.trans found) free
    refine ensures_permitted (fun fault refused => ⟨rfl, fault.property.2, fun _ _ _ _ => ?_⟩)
      fun permitted => ?_
    · exact not_willing_of_refusal refused
    refine ⟨?_, ?_, place, rfl, permitted, rfl⟩
    · intro empty
      simp [Path.hasOwnName, empty] at named
    · rw [directory, free]
      exact Bool.false_ne_true

/-- Whatever fails once there is a draft, nothing but the draft has changed. -/
theorem ensures_finishDraft {start : Workspace} {draft : Location} (hd : DraftPlace start path draft)
    (created : Drafted start draft [] draftMode ws) (bytes : List UInt8) :
    (finishDraft draft bytes path).Ensures ws
      (fun _ after => ∃ place, Replaced start path place bytes after)
      fun error after => error.fault.isUnasked = false ∧ AgreeOff draft start after ∧
        ¬ Unobstructed start path := by
  unfold finishDraft
  refine Ensures.bind ((ensures_fill ws draft bytes draftMode).imp (fun _ _ => id) ?_) ?_
  · rintro error _ ⟨fault, refused, part, rfl⟩
    refine ⟨fault, (hd.drafted_put created.toAgreeOff part draftMode).toAgreeOff, fun clear => ?_⟩
    exact refused (created.willing clear.willing)
  rintro - _ rfl
  have filled := hd.drafted_put created.toAgreeOff bytes draftMode
  generalize ws.put draft (.file bytes draftMode) = full at filled ⊢
  refine Ensures.bind ((ensures_outputMode full path hd.spelled).imp (fun _ _ => id) ?_) ?_
  · rintro error _ ⟨rfl, fault, refused⟩
    refine ⟨fault, filled.toAgreeOff, fun clear => ?_⟩
    obtain ⟨place, located⟩ := clear.exists_locate
    exact refused place ((filled.locate hd.free).2 located) (filled.willing clear.willing)
  rintro mode _ ⟨rfl, keeps⟩
  refine ensures_get ?_
  refine Ensures.bind ((ensures_setModeAt full filled.here _ mode).imp (fun _ _ => id) ?_) ?_
  · rintro error _ ⟨rfl, fault, refused⟩
    exact ⟨fault, filled.toAgreeOff, fun clear => refused (filled.willing clear.willing)⟩
  rintro - _ rfl
  have final := hd.drafted_put filled.toAgreeOff bytes mode
  change Drafted start draft bytes mode (full.put draft ((Entry.file bytes draftMode).withMode mode))
    at final
  generalize full.put draft ((Entry.file bytes draftMode).withMode mode) = ready at final ⊢
  refine (ensures_replaceBy ready path hd.spelled final.here).imp ?_ ?_
  · rintro - _ ⟨parts, noDirectory, place, located, permitted, rfl⟩
    rw [final.locate hd.free] at located
    rw [final.isDirectory hd.free] at noDirectory
    refine ⟨place, final.replaced hd located noDirectory permitted ?_⟩
    rw [keeps place ((filled.locate hd.free).2 located),
      filled.lookups place (hd.ne_of_locate parts located), Workspace.newFileMode,
      Workspace.umask_of_bare filled.rest]
    rfl
  · rintro error _ ⟨rfl, fault, refused⟩
    refine ⟨fault, final.toAgreeOff, fun clear => ?_⟩
    obtain ⟨place, located⟩ := clear.exists_locate
    refine refused place ((final.locate hd.free).2 located) clear.hasOwnName.2 ?_
      (final.willing clear.willing)
    rw [final.isDirectory hd.free]
    exact clear.noDirectory

/-- The bytes of a document take the place of the output, unless the document is no text. -/
theorem ensures_commit {start : Workspace} {draft : Location} (hd : DraftPlace start path draft)
    (created : Drafted start draft [] draftMode ws) (document : RawText) :
    (commit draft document path).Ensures ws
      (fun _ after => ∃ text place, document = RawText.ofText text ∧
        Replaced start path place (Text.encodeUtf8 text) after)
      fun error after =>
        (error.fault.isUnasked = false ∧ AgreeOff draft start after ∧ ¬ Unobstructed start path) ∨
        ∃ fault, document.toText = .error fault ∧ error.fault = .unencodable fault ∧ after = ws := by
  unfold commit
  cases read : document.toText with
  | error fault => exact .inr ⟨fault, rfl, rfl, rfl⟩
  | ok text =>
    refine (ensures_finishDraft ws path hd created _).imp ?_ fun _ _ => .inl
    rintro - after ⟨place, replaced⟩
    exact ⟨text, place, RawText.toText_eq_ok_iff.1 read, replaced⟩

/-- An output is replaced, or there is nothing new but directories. The draft of a document that is no
text stays. -/
theorem ensures_writeOutput (document : RawText) :
    (writeOutput document path).Ensures ws
      (fun _ after => ∃ text grown place, document = RawText.ofText text ∧ Grows ws grown ∧
        Replaced grown path place (Text.encodeUtf8 text) after)
      fun error after => (Grows ws after ∧ ¬ Unobstructed ws path) ∨
        ∃ fault, document.toText = .error fault ∧ error.fault = .unencodable fault ∧
          Abandoned ws path after := by
  have parent : (⟨path.root, path.parent.parts.reverse.reverse⟩ : Path) = path.parent := by
    rw [List.reverse_reverse]
    rfl
  have directories := ensures_ensureDirectories ws path.root path.parent.parts.reverse
  rw [parent] at directories
  -- the parent of an output without obstacles is there
  have there : Unobstructed ws path → ws.isDirectory path.parent := by
    intro clear
    obtain ⟨directory, located, found, -⟩ := clear.parent
    rw [Workspace.isDirectory_of_locate located]
    exact found
  unfold writeOutput
  refine Ensures.bind (directories.imp (fun _ _ => id) ?_) ?_
  · rintro error after ⟨grown, missing⟩
    exact .inl ⟨grown, fun clear => missing (there clear)⟩
  rintro - middle ⟨grown, same⟩
  have obstacle : ¬ Unobstructed middle path → ¬ Unobstructed ws path := by
    intro obstructed clear
    rw [← same (there clear)] at obstructed
    exact obstructed clear
  refine Ensures.bind ((ensures_createDraft middle path).imp (fun _ _ => id) ?_) ?_
  · rintro error _ ⟨rfl, obstructed⟩
    exact .inl ⟨grown, obstacle obstructed⟩
  rintro draft created ⟨hd, drafted⟩
  refine Ensures.catch ((ensures_commit created path hd drafted document).imp ?_ fun _ _ => id) ?_
  · rintro - after ⟨text, place, is_text, replaced⟩
    exact ⟨text, middle, place, is_text, grown, replaced⟩
  · rintro error after (⟨fault, agree, obstructed⟩ | ⟨fault, no_text, cause, rfl⟩)
    · rw [fault]
      exact .inl ⟨grown.trans (hd.grows_erase agree), obstacle obstructed⟩
    · have unasked : error.fault.isUnasked = true := by rw [cause, FileFault.isUnasked]
      rw [unasked]
      exact .inr ⟨fault, no_text, cause, middle, draft, grown, hd, drafted⟩

end Act

end HttpSuite
