import HttpSuite.Proofs.RawTexts
import HttpSuite.Proofs.Utf8
import HttpSuite.Workspace.Draft
import Mathlib.Data.List.Nodup
import Mathlib.Data.List.Perm.Subperm

/-!
# Places

What a workspace has at its places, and where paths lead:

* **entries** — an entry that is put or taken away changes one place (`lookup?_put`, `lookup?_erase`);
* **paths** — where a path leads is for directories to say (`locate_mono`);
* **spellings** — a path is put to the file system unless it holds a code point that has no bytes there
  (`FileFault.ofSpelling?_eq_none_iff`);
* **drafts** — every directory has a free place for a draft (`exists_freeDraft`), and no path leads to
  a draft of its own (`locate_ne_draft`).
-/

namespace HttpSuite

theorem Path.parts_eq_append (path : Path) (h : path.parts ≠ []) :
    path.parts = path.parent.parts ++ [path.name] := by
  rw [parent, name, List.getLast?_eq_some_getLast h]
  exact (List.dropLast_append_getLast h).symm

namespace Workspace

/-! ## Entries -/

theorem lookup_cons_eq_ite (place other : Location) (entry : Entry)
    (entries : List (Location × Entry)) :
    ((place, entry) :: entries).lookup other =
      if other = place then some entry else entries.lookup other := by
  rw [List.lookup_cons]
  by_cases h : other = place
  · simp [h]
  · rw [beq_eq_false_iff_ne.2 h, if_neg h]

theorem lookup_filter_ne (entries : List (Location × Entry)) (place other : Location) :
    (entries.filter (·.1 != place)).lookup other =
      if other = place then none else entries.lookup other := by
  induction entries with
  | nil => simp
  | cons entry entries ih =>
    obtain ⟨key, value⟩ := entry
    by_cases hk : key = place
    · subst hk
      rw [List.filter_cons_of_neg (by simp), ih, lookup_cons_eq_ite]
      split_ifs <;> rfl
    · rw [List.filter_cons_of_pos (by simpa using hk), lookup_cons_eq_ite, lookup_cons_eq_ite, ih]
      by_cases ho : other = key
      · subst ho
        rw [if_pos rfl, if_pos rfl, if_neg hk]
      · rw [if_neg ho, if_neg ho]

variable (ws : Workspace)

@[simp] theorem lookup?_nil : ws.lookup? [] = some (.directory 0o755) := rfl

theorem lookup?_of_ne_nil {place : Location} (h : place ≠ []) :
    ws.lookup? place = ws.entries.lookup place := by
  simp [lookup?, h]

theorem ne_nil_of_lookup? {place : Location} (h : ws.lookup? place = none) : place ≠ [] := by
  rintro rfl
  cases h

theorem lookup?_put {place : Location} (h : place ≠ []) (entry : Entry) (other : Location) :
    (ws.put place entry).lookup? other = if other = place then some entry else ws.lookup? other := by
  by_cases root : other = []
  · subst root
    rw [lookup?_nil, lookup?_nil, if_neg (Ne.symm h)]
  · rw [lookup?_of_ne_nil _ root, lookup?_of_ne_nil _ root, put, lookup_cons_eq_ite, lookup_filter_ne]
    split_ifs <;> rfl

theorem lookup?_erase {place : Location} (h : place ≠ []) (other : Location) :
    (ws.erase place).lookup? other = if other = place then none else ws.lookup? other := by
  by_cases root : other = []
  · subst root
    rw [lookup?_nil, lookup?_nil, if_neg (Ne.symm h)]
  · rw [lookup?_of_ne_nil _ root, lookup?_of_ne_nil _ root, erase, lookup_filter_ne]

/-! ## Paths -/

/-- The directories of one workspace are in the other one, with the same permissions. -/
def KeepsDirectories (before after : Workspace) : Prop :=
  ∀ place mode, before.lookup? place = some (.directory mode) →
    after.lookup? place = some (.directory mode)

theorem follow_append (place : Location) (front back : List Name) :
    ws.follow place (front ++ back) = (ws.follow place front).bind (ws.follow · back) := by
  induction front generalizing place with
  | nil => rfl
  | cons part front ih =>
    rw [List.cons_append, follow, follow]
    split
    · rfl
    · rfl
    · simp only [ih]
      split_ifs <;> rfl

variable {ws}

theorem follow_mono {other : Workspace} (h : KeepsDirectories ws other) {start place : Location}
    {parts : List Name} (found : ws.follow start parts = .ok place) :
    other.follow start parts = .ok place := by
  induction parts generalizing start with
  | nil => exact found
  | cons part parts ih =>
    rw [follow] at found ⊢
    split at found
    · cases found
    · cases found
    · rename_i mode here
      rw [h start mode here]
      simp only at found ⊢
      split_ifs at found ⊢ <;> exact ih found

/-- What stops on the way was found there. -/
theorem isUnasked_of_follow {start : Location} {parts : List Name} {fault : FileFault}
    (h : ws.follow start parts = .error fault) : fault.isUnasked = false := by
  induction parts generalizing start with
  | nil => cases h
  | cons part parts ih =>
    rw [follow] at h
    split at h
    · cases h
      rfl
    · cases h
      rfl
    · split_ifs at h <;> first | exact ih h | (cases h; rfl)

/-- A path that can be spelled leads where its parts lead. -/
theorem locate_eq {path : Path} (spelled : FileFault.ofSpelling? path.text = none) :
    ws.locate path =
      if maxPathBytes < (Text.nameBytes path.text).length then .error .nameTooLong
      else ws.follow (ws.start path) (path.parts.map Text.nameBytes) := by
  rw [locate, spelled]

theorem spelled_of_locate {path : Path} {place : Location} (h : ws.locate path = .ok place) :
    FileFault.ofSpelling? path.text = none := by
  rw [locate] at h
  split at h
  · cases h
  · assumption

/-- A path that leads somewhere leads there by its parts. -/
theorem follow_of_locate {path : Path} {place : Location} (h : ws.locate path = .ok place) :
    ws.follow (ws.start path) (path.parts.map Text.nameBytes) = .ok place := by
  rw [locate_eq (spelled_of_locate h)] at h
  split_ifs at h
  exact h

/-- A path that can be spelled is one that the file system is asked for. -/
theorem isUnasked_of_locate {path : Path} (spelled : FileFault.ofSpelling? path.text = none)
    {fault : FileFault} (h : ws.locate path = .error fault) : fault.isUnasked = false := by
  rw [locate_eq spelled] at h
  split_ifs at h
  · cases h
    rfl
  · exact isUnasked_of_follow h

/-- Where a path leads is not changed by what happens to files. -/
theorem locate_mono {other : Workspace} (h : KeepsDirectories ws other) (home : other.home = ws.home)
    {path : Path} {place : Location} (found : ws.locate path = .ok place) :
    other.locate path = .ok place := by
  have start : other.start path = ws.start path := by
    rw [start, start, home]
  have spelled := spelled_of_locate found
  rw [locate_eq spelled] at found ⊢
  split_ifs at found ⊢
  rw [start]
  exact follow_mono h found

/-- A path leads through its parent. -/
theorem follow_name_of_locate {path : Path} {directory place : Location} (parts : path.parts ≠ [])
    (parent : ws.locate path.parent = .ok directory) (found : ws.locate path = .ok place) :
    ws.follow directory [Text.nameBytes path.name] = .ok place := by
  have steps := follow_of_locate found
  have above : ws.follow (ws.start path) (path.parent.parts.map Text.nameBytes) = .ok directory :=
    follow_of_locate parent
  rw [path.parts_eq_append parts, List.map_append, follow_append, above] at steps
  exact steps

theorem follow_singleton {directory place : Location} {name : Name}
    (h : ws.follow directory [name] = .ok place) :
    place = directory ∨ place = directory.dropLast ∨ place = directory ++ [name] := by
  rw [follow] at h
  split at h
  · cases h
  · cases h
  · simp only [follow] at h
    split_ifs at h <;> obtain rfl := Except.ok.inj h <;> simp

/-- No path leads to a draft of its own. -/
theorem locate_ne_draft {path : Path} {directory place : Location} (parts : path.parts ≠ [])
    (parent : ws.locate path.parent = .ok directory) (found : ws.locate path = .ok place) (k : Nat) :
    place ≠ directory ++ [draftName (Text.nameBytes path.name) k] := by
  rintro rfl
  rcases follow_singleton (follow_name_of_locate parts parent found) with same | above | inside
  · have longer := congrArg List.length same
    simp at longer
  · have longer := congrArg List.length above
    simp only [List.length_append, List.length_singleton, List.length_dropLast] at longer
    omega
  · have names := List.singleton_inj.1 (List.append_cancel_left inside)
    have longer := congrArg List.length names
    have mark : (Text.encodeUtf8 ".").length = 1 := by
      rw [Text.encodeUtf8_eq]
      rfl
    simp only [draftName, List.length_append] at longer
    omega

end Workspace

/-! ## Spellings -/

/-- A code point that the spelling of a path may hold: no null character, and no surrogate that stands
for nothing. -/
def Point.InSpelling : Point → Prop
  | .char c => c ≠ '\x00'
  | .surrogate index => (Text.escapedByte? index).isSome

theorem FileFault.ofSpelling?_eq_none_iff {spelling : RawText} :
    ofSpelling? spelling = none ↔ ∀ point ∈ spelling, point.InSpelling := by
  have encodable : Text.nameFault? spelling = none ↔
      ∀ index, .surrogate index ∈ spelling → (Text.escapedByte? index).isSome := by
    rw [Text.nameFault?, RawText.firstRefused?_eq_none_iff]
    simp
  have split : (∀ point ∈ spelling, point.InSpelling) ↔
      (∀ index, .surrogate index ∈ spelling → (Text.escapedByte? index).isSome) ∧
        Point.char '\x00' ∉ spelling := by
    constructor
    · intro all
      exact ⟨fun index mem => all _ mem, fun null => all _ null rfl⟩
    · rintro ⟨surrogates, null⟩ point mem
      cases point with
      | char c =>
        rintro rfl
        exact null mem
      | surrogate index => exact surrogates index mem
  rw [split, ← encodable, ofSpelling?]
  cases Text.nameFault? spelling <;> simp

/-- The code points of names with slashes between them are those of the names, slashes aside. -/
theorem Path.forall_mem_intercalate {holds : Point → Prop} (slash : holds (.char '/'))
    (parts : List RawText) :
    (∀ point ∈ [Point.char '/'].intercalate parts, holds point) ↔
      ∀ part ∈ parts, ∀ point ∈ part, holds point := by
  induction parts with
  | nil => simp
  | cons part parts ih =>
    cases parts with
    | nil => simp
    | cons next parts =>
      rw [List.intercalate_cons_cons, List.forall_mem_append, List.forall_mem_append, ih]
      simp [slash]

/-- The code points of a path are those of its root and its parts, slashes and dots aside. -/
theorem Path.forall_mem_text {holds : Point → Prop} (slash : holds (.char '/'))
    (dot : holds (.char '.')) (path : Path) :
    (∀ point ∈ path.text, holds point) ↔
      (∀ point ∈ RawText.ofText path.root, holds point) ∧
        ∀ part ∈ path.parts, ∀ point ∈ part, holds point := by
  obtain ⟨root, parts⟩ := path
  unfold text
  split
  · rename_i root_eq parts_eq
    obtain rfl : root = "" := root_eq
    obtain rfl : parts = [] := parts_eq
    simp [dot]
  · rw [List.forall_mem_append, forall_mem_intercalate slash]

/-- A path can be spelled if its parent and its name can. -/
theorem Path.spelled_of_parent {path : Path}
    (parent : FileFault.ofSpelling? path.parent.text = none)
    (name : FileFault.ofSpelling? path.name = none) : FileFault.ofSpelling? path.text = none := by
  have slash : Point.InSpelling (.char '/') := by rintro ⟨⟩
  have dot : Point.InSpelling (.char '.') := by rintro ⟨⟩
  rw [FileFault.ofSpelling?_eq_none_iff] at *
  rw [Path.forall_mem_text slash dot] at parent ⊢
  refine ⟨parent.1, ?_⟩
  by_cases empty : path.parts = []
  · simp [empty]
  · rw [path.parts_eq_append empty, List.forall_mem_append, List.forall_mem_singleton]
    exact ⟨parent.2, name⟩

/-- The spelling of a draft ends with the name of the output. -/
theorem spelled_of_draftSpelling {directory : Location} {name : RawText}
    (h : FileFault.ofSpelling? (draftSpelling directory name) = none) :
    FileFault.ofSpelling? name = none := by
  rw [FileFault.ofSpelling?_eq_none_iff] at *
  exact fun point mem => h point (List.mem_append_right _ mem)

/-! ## Drafts -/

theorem draftTag_injective {j k : Nat} (h : draftTag j = draftTag k) : j = k := by
  have zeros : ∀ (n : Nat) (cs : List Char),
      Nat.ofDigitChars 10 (List.replicate n '0' ++ cs) 0 = Nat.ofDigitChars 10 cs 0 := by
    intro n cs
    induction n with
    | zero => rfl
    | succ n ih =>
      rw [List.replicate_succ, List.cons_append, Nat.ofDigitChars_cons]
      exact ih
  have digits := congrArg (Nat.ofDigitChars 10 · 0) (String.ofList_inj.1 h)
  simpa only [zeros, Nat.ofDigitChars_ten_toDigits] using digits

theorem draftName_injective {name : Name} {j k : Nat} (h : draftName name j = draftName name k) :
    j = k := by
  have ends := Text.encodeUtf8_injective (List.append_cancel_left h)
  have parts := congrArg String.toList ends
  simp only [String.toList_append, List.append_assoc] at parts
  exact draftTag_injective (String.toList_inj.1 (by simpa using parts))

/-- A directory has a free place for a draft. -/
theorem exists_freeDraft (ws : Workspace) (directory : Location) (name : Name) :
    ∃ k ≤ ws.entries.length, ws.freeDraft directory name = directory ++ [draftName name k] ∧
      ws.lookup? (directory ++ [draftName name k]) = none := by
  let drafts := (List.range (ws.entries.length + 1)).map fun k => directory ++ [draftName name k]
  have distinct : drafts.Nodup := by
    refine List.nodup_range.map_on ?_
    intro j _ k _ same
    exact draftName_injective (List.singleton_inj.1 (List.append_cancel_left same))
  -- there are more candidates than entries
  have free : ∃ draft ∈ drafts, (ws.lookup? draft).isNone := by
    by_contra! taken
    have known : drafts ⊆ ws.entries.map Prod.fst := by
      intro draft hd
      obtain ⟨k, -, rfl⟩ := List.mem_map.1 hd
      have here : (ws.entries.lookup (directory ++ [draftName name k])).isSome := by
        rw [← ws.lookup?_of_ne_nil (by simp)]
        simpa [Option.isSome_iff_ne_none] using taken _ hd
      obtain ⟨entry, he, same⟩ := List.lookup_isSome_iff.1 here
      exact List.mem_map.2 ⟨entry, he, (eq_of_beq same).symm⟩
    have fits := (distinct.subperm known).length_le
    simp only [drafts, List.length_map, List.length_range] at fits
    omega
  obtain ⟨draft, found⟩ := Option.isSome_iff_exists.1 (List.find?_isSome.2 free)
  obtain ⟨k, hk, rfl⟩ := List.mem_map.1 (List.mem_of_find?_eq_some found)
  refine ⟨k, Nat.lt_succ_iff.1 (List.mem_range.1 hk), ?_, ?_⟩
  · rw [Workspace.freeDraft]
    show (drafts.find? _).getD directory = _
    rw [found]
    rfl
  · have none := List.find?_some found
    exact Option.isNone_iff_eq_none.1 none

end HttpSuite
