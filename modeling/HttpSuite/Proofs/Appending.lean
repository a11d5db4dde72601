import HttpSuite.Proofs.NameSearch
import Mathlib.Data.List.Zip

/-!
# Appending tests

A generated file is its header, its units with a separator in front of each, and an ending
(`written_eq_joined`). Two facts follow from this:

* **Appending.** The names of the units depend on no later test (`unitNamesFrom_append`), so further
  tests add units in front of the ending and change nothing before it.
* **Any order.** A unit is made from its test and its name alone. So the units can be made in any order
  and put in the order of the tests afterwards (`inOrder_rendered`).
-/

namespace HttpSuite.Emit

/-! ## The pieces of a file -/

/-- What stands behind the last unit. -/
def ending : Target → String
  | .python => "\n"
  | .java => "\n\x7d\n"

theorem intercalate_eq_join (separator first : String) (others : List String) :
    separator.intercalate (first :: others) =
      first ++ String.join (others.map (separator ++ ·)) := by
  induction others generalizing first with
  | nil => simp
  | cons next others ih =>
    rw [String.intercalate_cons_cons, ih, List.map_cons, String.join_cons, String.append_assoc,
      String.append_assoc]

/-- A file is its header, its units with a separator in front of each, and its ending. -/
theorem written_eq_joined (target : Target) (settings : Settings) (tests : List TestBlock)
    {header : List String} (ne : header ≠ []) :
    String.ofList (written (documentLines target settings ⟨tests⟩ header)) =
      joinLines header ++ String.join (((unitBlocks target settings ⟨tests⟩).map joinLines).map
        (separator target ++ ·)) ++ ending target := by
  have blank : (separator target).toList = '\n' :: written (blankLines target) := by
    cases target <;> decide
  have closing : (ending target).toList = '\n' :: written (footer? target).toList := by
    cases target <;> decide
  have body := intercalate_written blank ne (@unitBlock_ne_nil target settings ⟨tests⟩)
  refine String.toList_inj.1 ?_
  rw [String.toList_ofList, documentLines, written_append, ← body, intercalate_eq_join,
    String.toList_append (t := ending target), closing, List.append_assoc, List.singleton_append]

/-! ## Appending -/

/-- Further tests are named after the names of the tests before them. -/
theorem unitNamesFrom_append (taken names others : List String) :
    unitNamesFrom taken (names ++ others) =
      unitNamesFrom taken names ++ unitNamesFrom (taken ++ unitNamesFrom taken names) others := by
  induction names generalizing taken with
  | nil => rw [List.nil_append, unitNamesFrom, List.append_nil, List.nil_append]
  | cons name names ih =>
    rw [List.cons_append, unitNamesFrom, ih, unitNamesFrom, List.append_assoc, List.singleton_append,
      List.cons_append]

/-- The units of further tests, named after the tests before them. -/
def addedBlocks (target : Target) (settings : Settings) (tests others : List TestBlock) :
    List (List String) :=
  List.zipWith (unitLines target settings) others
    (unitNamesFrom (unitNames (tests.map (·.name))) (others.map (·.name)))

theorem unitBlocks_append (target : Target) (settings : Settings) (tests others : List TestBlock) :
    unitBlocks target settings ⟨tests ++ others⟩ =
      unitBlocks target settings ⟨tests⟩ ++ addedBlocks target settings tests others := by
  have names : unitNames ((tests ++ others).map (·.name)) = unitNames (tests.map (·.name)) ++
      unitNamesFrom (unitNames (tests.map (·.name))) (others.map (·.name)) := by
    rw [List.map_append, unitNames, unitNamesFrom_append, List.nil_append, unitNames]
  rw [unitBlocks, names, List.zipWith_append (by rw [length_unitNames, List.length_map]), unitBlocks,
    addedBlocks]

/-- Further tests can be written if each of their assertions can. -/
theorem allWritable_append_iff {target : Target} {tests others : List TestBlock}
    (h : AllWritable target tests) :
    AllWritable target (tests ++ others) ↔
      ∀ test ∈ others, ∀ node ∈ test.assertions, ∃ line, assertion target node = .ok line := by
  have single (node : Assertion) : (∃ line, assertion target node = .ok line) ↔
      Writable target node := by
    rw [assertion_eq]
    split <;> simp [*]
  simp only [AllWritable, List.forall_mem_append, single]
  exact and_iff_right h

/-! ## Any order -/

/-- A unit that is to be made: the place of its test among all tests, the test, and the unit's name. -/
structure Job where
  place : Nat
  test : TestBlock
  name : String

/-- The units that are to be made for tests. -/
def jobs (tests : List TestBlock) : List Job :=
  (tests.zip (unitNames (tests.map (·.name)))).zipIdx.map fun entry =>
    ⟨entry.2, entry.1.1, entry.1.2⟩

/-- Makes a unit and keeps its place. -/
def Job.render (target : Target) (settings : Settings) (job : Job) : Except Failure (Nat × String) :=
  (unitText target settings job.test job.name).map fun unit => (job.place, unit)

/-- The unit of a job, if it can be made, with its place. -/
def Job.rendered (target : Target) (settings : Settings) (job : Job) : Nat × String :=
  (job.place, joinLines (unitLines target settings job.test job.name))

theorem Job.render_eq (target : Target) (settings : Settings) (job : Job) :
    job.render target settings =
      if ∀ node ∈ job.test.assertions, Writable target node then .ok (job.rendered target settings)
      else .error .digits := by
  rw [Job.render, unitText_eq]
  split <;> rfl

/-- Units in the order of their places. -/
def inOrder (rendered : List (Nat × String)) : List String :=
  (rendered.mergeSort fun a b => decide (a.1 ≤ b.1)).map Prod.snd

theorem map_place_jobs (tests : List TestBlock) :
    (jobs tests).map Job.place = List.range' 0 (jobs tests).length := by
  rw [jobs, List.map_map, List.length_map, List.length_zipIdx, ← List.zipIdx_map_snd]
  rfl

theorem map_test_jobs (tests : List TestBlock) : (jobs tests).map Job.test = tests := by
  have pairs := List.zipIdx_map_fst 0 (tests.zip (unitNames (tests.map (·.name))))
  have fst := map_fst_zip_unitNames ⟨tests⟩
  rw [← pairs, List.map_map] at fst
  rw [jobs, List.map_map]
  exact fst

theorem map_rendered_jobs (target : Target) (settings : Settings) (tests : List TestBlock) :
    ((jobs tests).map (Job.rendered target settings)).map Prod.snd =
      (unitBlocks target settings ⟨tests⟩).map joinLines := by
  have pairs := List.zipIdx_map_fst 0 (tests.zip (unitNames (tests.map (·.name))))
  rw [unitBlocks, ← List.map_uncurry_zip_eq_zipWith, ← pairs, jobs, List.map_map, List.map_map,
    List.map_map, List.map_map]
  rfl

/-- Sorting undoes any change of the order of units with different places. -/
theorem mergeSort_of_perm {rendered units : List (Nat × String)} (h : rendered.Perm units)
    (increasing : units.Pairwise fun a b => a.1 < b.1) :
    rendered.mergeSort (fun a b => decide (a.1 ≤ b.1)) = units := by
  have places : (units.map Prod.fst).Nodup :=
    List.Pairwise.imp Nat.ne_of_lt (List.pairwise_map.2 increasing)
  have perm := (List.mergeSort_perm rendered fun a b => decide (a.1 ≤ b.1)).trans h
  have sorted : (rendered.mergeSort fun a b => decide (a.1 ≤ b.1)).Pairwise fun a b => a.1 ≤ b.1 := by
    refine (List.pairwise_mergeSort ?_ ?_ rendered).imp of_decide_eq_true
    · intro a b c below above
      exact decide_eq_true (Nat.le_trans (of_decide_eq_true below) (of_decide_eq_true above))
    · intro a b
      simpa using Nat.le_total a.1 b.1
  -- Sorted lists with the same entries are equal if entries of one place are.
  refine List.Perm.eq_of_pairwise ?_ sorted (increasing.imp Nat.le_of_lt) perm
  intro a b ha hb below above
  exact List.inj_on_of_nodup_map places (perm.mem_iff.1 ha) hb (Nat.le_antisymm below above)

/-- Units come out in the order of the tests, in whatever order they were made. -/
theorem inOrder_rendered {target : Target} {settings : Settings} {tests : List TestBlock}
    {order : List Job} (h : order.Perm (jobs tests)) :
    inOrder (order.map (Job.rendered target settings)) =
      (unitBlocks target settings ⟨tests⟩).map joinLines := by
  have increasing :
      ((jobs tests).map (Job.rendered target settings)).Pairwise fun a b => a.1 < b.1 := by
    have places := List.pairwise_lt_range' (s := 0) (n := (jobs tests).length)
    rw [← map_place_jobs, List.pairwise_map] at places
    exact List.pairwise_map.2 places
  rw [inOrder, mergeSort_of_perm (h.map _) increasing, map_rendered_jobs]

/-- Units that can be made can be made in any order. -/
theorem mapM_render {target : Target} {settings : Settings} {tests : List TestBlock}
    (writable : AllWritable target tests) {order : List Job} (h : order.Perm (jobs tests)) :
    order.mapM (Job.render target settings) = .ok (order.map (Job.rendered target settings)) := by
  rw [mapM_eq (Job.render_eq target settings), if_pos]
  intro job mem
  refine writable job.test ?_
  rw [← map_test_jobs tests]
  exact List.mem_map_of_mem (h.mem_iff.1 mem)

/-! ## Both together -/

/-- **Appending keeps the text.** If a file can be generated for some tests, then the text for them is
kept, up to its ending, in every file for these and further tests; and there is such a file exactly if
the assertions of the further tests can be written. The file is put together from units that are made
each from its test and its name, in any order, and then put in the order of the tests. -/
theorem appending_keeps_text (target : Target) (settings : Settings) (sourceName : Option String)
    (outputName : Option RawText) (tests others : List TestBlock) {file : String}
    (h : text target settings sourceName outputName ⟨tests⟩ = .ok file) :
    (∃ kept, file = kept ++ ending target ∧
      ∀ longer, text target settings sourceName outputName ⟨tests ++ others⟩ = .ok longer →
        ∃ more, longer = kept ++ more ++ ending target) ∧
    ((∃ longer, text target settings sourceName outputName ⟨tests ++ others⟩ = .ok longer) ↔
      ∀ test ∈ others, ∀ node ∈ test.assertions, ∃ line, assertion target node = .ok line) ∧
    ∃ header, headerLines target settings sourceName outputName = .ok header ∧
      ∀ order : List Job, order.Perm (jobs tests) →
        (order.mapM (Job.render target settings)).map (fun rendered =>
          fileText (separator target) (joinLines header) (inOrder rendered) (footer? target)) =
            .ok file := by
  obtain ⟨writable, header, headed, whole⟩ := text_eq_ok_iff.1 h
  have ne := headerLines_ne_nil headed
  refine ⟨⟨_, whole.trans (written_eq_joined target settings tests ne), ?_⟩, ?_, header, headed, ?_⟩
  · intro longer h'
    obtain ⟨-, header', headed', whole'⟩ := text_eq_ok_iff.1 h'
    obtain rfl : header = header' := Except.ok.inj (headed.symm.trans headed')
    refine ⟨String.join (((addedBlocks target settings tests others).map joinLines).map
      (separator target ++ ·)), ?_⟩
    rw [whole', written_eq_joined target settings (tests ++ others) ne, unitBlocks_append,
      List.map_append, List.map_append, String.join_append]
    exact congrArg (· ++ ending target) String.append_assoc.symm
  · rw [← allWritable_append_iff writable]
    constructor
    · rintro ⟨longer, h'⟩
      exact (text_eq_ok_iff.1 h').1
    · intro good
      exact ⟨_, text_eq_ok_iff.2 ⟨good, header, headed, rfl⟩⟩
  · intro order perm
    rw [text_eq_fileText, unitTexts_eq, if_pos writable, headed] at h
    rw [mapM_render writable perm, Except.map, inOrder_rendered perm]
    exact h

/-- Two tests of one name, and a third that is named like the unit of the second. -/
theorem appending_keeps_text_of_namesakes :
    let tests : List TestBlock := [⟨"A", [⟨.get, "/"⟩], [.bodyContains "\n\n"]⟩, ⟨"A", [], []⟩]
    let others : List TestBlock := [⟨"A_2", [], [.statusEquals 200]⟩]
    ∃ file longer kept more, text .java {} none none ⟨tests⟩ = .ok file ∧
      text .java {} none none ⟨tests ++ others⟩ = .ok longer ∧
      file = kept ++ "\n\x7d\n" ∧ longer = kept ++ more ++ "\n\x7d\n" ∧
      ∃ header, headerLines .java {} none none = .ok header ∧
        ((jobs tests).reverse.mapM (Job.render .java {})).map (fun rendered =>
          fileText "\n\n" (joinLines header) (inOrder rendered) (some "\x7d")) = .ok file := by
  intro tests others
  obtain ⟨⟨kept, ends, keeps⟩, succeeds, header, headed, anyOrder⟩ :=
    appending_keeps_text .java {} none none tests others rfl
  have written : ∀ test ∈ others, ∀ node ∈ test.assertions, ∃ line, assertion .java node = .ok line := by
    intro test mem node node_mem
    obtain rfl := List.mem_singleton.1 mem
    obtain rfl := List.mem_singleton.1 node_mem
    exact ⟨_, rfl⟩
  obtain ⟨longer, made⟩ := succeeds.2 written
  obtain ⟨more, extended⟩ := keeps longer made
  exact ⟨_, longer, kept, more, rfl, made, ends, extended, header, headed,
    anyOrder (jobs tests).reverse (List.reverse_perm _)⟩

end HttpSuite.Emit
