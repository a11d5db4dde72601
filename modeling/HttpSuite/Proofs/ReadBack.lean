import HttpSuite.Proofs.Document
import Mathlib.Data.List.Basic
import Mathlib.Data.List.Zip

/-!
# Reading the tests off a generated file

A generated file loses nothing of its tests but how their requests and assertions were interleaved.
Three steps lead from the text back to the tests:

* **Lines.** Cutting the text at its line feeds gives the lines of the header and then those of the
  units: no line of a unit holds a line feed (`newline_not_mem_unit`).
* **Units.** An empty line stands before every unit and none stands in one, so the units come apart
  (`units_injective`).
* **Statements.** Between its opening and closing lines a unit holds the statements of its test, and
  these determine its requests and its assertions (`contents_of_statements`).
-/

namespace HttpSuite.Emit

/-! ## Unit names -/

theorem freshName_cases (taken : List String) (base : String) :
    freshName taken base = base ∨ ∃ k, freshName taken base = numbered base k := by
  rw [freshName]
  split
  · dsimp only
    split
    · exact .inr ⟨_, rfl⟩
    · exact .inl rfl
  · exact .inl rfl

/-- A unit name is made of the test's name, `test_` and digits. -/
theorem not_mem_unitNamesFrom {d : Char} (digit : d.isDigit = false) (front : d ∉ "test_".toList)
    {names : List String} (h : ∀ name ∈ names, d ∉ name.toList) (taken : List String) :
    ∀ unit ∈ unitNamesFrom taken names, d ∉ unit.toList := by
  induction names generalizing taken with
  | nil => simp [unitNamesFrom]
  | cons name names ih =>
    have base : d ∉ ("test_" ++ name).toList := by
      rw [String.toList_append, List.mem_append, not_or]
      exact ⟨front, h name List.mem_cons_self⟩
    have first : d ∉ (freshName taken ("test_" ++ name)).toList := by
      rcases freshName_cases taken ("test_" ++ name) with fresh | ⟨k, fresh⟩
      · rwa [fresh]
      · rw [fresh, numbered, String.toList_append, String.toList_append, List.mem_append,
          List.mem_append, not_or, not_or]
        -- The number comes after an underscore, which `test_` holds as well.
        refine ⟨⟨base, fun hd => front ?_⟩, fun hd => ?_⟩
        · rw [List.mem_singleton.1 hd]
          decide
        · exact Number.ne_of_isDigit (Number.isDigit_of_mem_repr hd) digit rfl
    intro unit hunit
    rcases List.mem_cons.1 hunit with rfl | hunit
    · exact first
    · exact ih (fun next hn => h next (List.mem_cons_of_mem name hn)) _ unit hunit

theorem not_mem_unitNames {d : Char} (digit : d.isDigit = false) (front : d ∉ "test_".toList)
    {program : Program} (h : ∀ test ∈ program.tests, d ∉ test.name.toList) :
    ∀ unit ∈ unitNames (program.tests.map (·.name)), d ∉ unit.toList :=
  not_mem_unitNamesFrom digit front (List.forall_mem_map.2 h) []

/-! ## Lines -/

theorem plain_fixtureName {settings : Settings} (accepted : settings.Accepted) :
    Plain settings.targets.python.fixtureName :=
  ⟨accepted.not_mem_fixtureName (by decide) (by decide),
    accepted.not_mem_fixtureName (by decide) (by decide)⟩

section Lines

variable {target : Target} {settings : Settings} {test : TestBlock} {name line : String}

theorem newline_not_mem_statement (fixture : Plain settings.targets.python.fixtureName)
    (h : line ∈ statements target settings test) : '\n' ∉ line.toList := by
  rcases List.mem_append.1 h with h | h
  · obtain ⟨node, -, rfl⟩ := List.mem_map.1 h
    exact newline_not_mem_request fixture target node
  · obtain ⟨node, -, rfl⟩ := List.mem_map.1 h
    exact newline_not_mem_assertionLine target node

theorem newline_not_mem_unit (fixture : Plain settings.targets.python.fixtureName)
    (hname : '\n' ∉ name.toList) (h : line ∈ unitLines target settings test name) :
    '\n' ∉ line.toList := by
  have opening : ∀ line ∈ openingLines target settings name, '\n' ∉ line.toList := by
    cases target <;> simp [openingLines, hname, fixture.1]
  have indented : '\n' ∉ (margin target).toList := by cases target <;> decide
  have closing : ∀ line ∈ closingLines target, '\n' ∉ line.toList := by
    cases target <;> simp [closingLines]
  rw [unitLines, List.mem_append, List.mem_append] at h
  rcases h with (h | h) | h
  · exact opening line h
  · obtain ⟨statement, hs, rfl⟩ := List.mem_map.1 h
    rw [String.toList_append, List.mem_append, not_or]
    exact ⟨indented, newline_not_mem_statement fixture hs⟩
  · exact closing line h

end Lines

/-- A program whose test names hold no line feed, as no identifier does. -/
def NamesInLine (program : Program) : Prop :=
  ∀ test ∈ program.tests, '\n' ∉ test.name.toList

theorem newline_not_mem_unitBlocks {target : Target} {settings : Settings} {program : Program}
    (fixture : Plain settings.targets.python.fixtureName) (names : NamesInLine program) :
    ∀ unit ∈ unitBlocks target settings program, ∀ line ∈ unit, '\n' ∉ line.toList := by
  intro unit hunit line hline
  obtain ⟨test, name, ⟨-, hname⟩, rfl⟩ := exists_of_mem_unitBlocks hunit
  exact newline_not_mem_unit fixture
    (not_mem_unitNames (by decide) (by decide) names name hname) hline

/-- The lines of a file are the header's own lines and then those of the units, each after its empty
lines, and of the footer. -/
theorem splitLines_document {target : Target} {settings : Settings} {program : Program}
    (fixture : Plain settings.targets.python.fixtureName) (names : NamesInLine program)
    (header : List String) :
    splitLines (String.ofList (written (documentLines target settings program header))) =
      header.flatMap splitLines ++
        (unitBlocks target settings program).flatMap (blankLines target ++ ·) ++
        (footer? target).toList ++ [""] := by
  have units : ∀ line ∈ (unitBlocks target settings program).flatMap (blankLines target ++ ·),
      '\n' ∉ line.toList := by
    have blank : ∀ line ∈ blankLines target, '\n' ∉ line.toList := by
      cases target <;> simp [blankLines]
    intro line hline
    obtain ⟨unit, hunit, hline⟩ := List.mem_flatMap.1 hline
    rcases List.mem_append.1 hline with hline | hline
    · exact blank line hline
    · exact newline_not_mem_unitBlocks fixture names unit hunit line hline
  have footer : ∀ line ∈ (footer? target).toList, '\n' ∉ line.toList := by
    cases target <;> simp [footer?]
  rw [splitLines_written, documentLines, List.flatMap_append, List.flatMap_append,
    flatMap_splitLines units, flatMap_splitLines footer]

/-! ## Units -/

/-- If `g` can be told from `f`, then so can it element by element. -/
theorem map_eq_map_of_forall {α β γ : Type} {f : α → β} {g : α → γ} {l l' : List α}
    (step : ∀ a ∈ l, ∀ b ∈ l', f a = f b → g a = g b) (h : l.map f = l'.map f) :
    l.map g = l'.map g := by
  induction l generalizing l' with
  | nil =>
    obtain rfl := List.map_eq_nil_iff.1 h.symm
    rfl
  | cons a l ih =>
    obtain ⟨b, l', rfl, head, tail⟩ := List.map_eq_cons_iff.1 h.symm
    have rest := ih (fun c hc d hd =>
      step c (List.mem_cons_of_mem a hc) d (List.mem_cons_of_mem b hd)) tail.symm
    rw [List.map_cons, List.map_cons, rest,
      step a List.mem_cons_self b List.mem_cons_self head.symm]

/-- Parts that hold no empty line, each with the same empty lines before it, come apart. -/
theorem units_injective {blank : List String} {xs ys : List (List String)}
    (hx : ∀ unit ∈ xs, "" ∉ unit) (hy : ∀ unit ∈ ys, "" ∉ unit)
    (h : xs.flatMap ("" :: blank ++ ·) = ys.flatMap ("" :: blank ++ ·)) : xs = ys := by
  have starts : ∀ zs : List (List String),
      ∃ more, zs.flatMap ("" :: blank ++ ·) ++ [""] = "" :: more := by
    intro zs
    cases zs with
    | nil => exact ⟨[], rfl⟩
    | cons z zs => exact ⟨_, rfl⟩
  induction xs generalizing ys with
  | nil =>
    cases ys with
    | nil => rfl
    | cons y ys => simp at h
  | cons x xs ih =>
    cases ys with
    | nil => simp at h
    | cons y ys =>
      simp only [List.flatMap_cons, List.append_assoc] at h
      -- One more empty line at the end, so that every part has one after it.
      have ended := congrArg (· ++ [""]) (List.append_cancel_left h)
      obtain ⟨afterX, hxs⟩ := starts xs
      obtain ⟨afterY, hys⟩ := starts ys
      simp only [List.append_assoc, hxs, hys] at ended
      obtain ⟨rfl, rfl⟩ := append_cons_inj (hx x List.mem_cons_self) (hy y List.mem_cons_self) ended
      have rest := ih (fun unit hu => hx unit (List.mem_cons_of_mem x hu))
        (fun unit hu => hy unit (List.mem_cons_of_mem x hu))
        (List.append_cancel_right (hxs.trans hys.symm))
      rw [rest]

theorem empty_not_mem_unitBlocks {target : Target} {settings : Settings} {program : Program} :
    ∀ unit ∈ unitBlocks target settings program, "" ∉ unit := by
  intro unit hunit
  obtain ⟨test, name, -, rfl⟩ := exists_of_mem_unitBlocks hunit
  rw [unitLines, List.mem_append, List.mem_append, List.mem_map]
  cases target <;> simp [openingLines, closingLines, margin]

/-! ## Statements -/

/-- Items of two kinds, all of the first before all of the second, come apart if no item of one kind
looks like one of the other. -/
theorem append_map_inj {α β γ : Type} {f : α → γ} {g : β → γ} (ne : ∀ a b, f a ≠ g b)
    {l l' : List α} {m m' : List β} (h : l.map f ++ m.map g = l'.map f ++ m'.map g) :
    l.map f = l'.map f ∧ m.map g = m'.map g := by
  induction l generalizing l' with
  | nil =>
    cases l' with
    | nil => exact ⟨rfl, h⟩
    | cons a l' =>
      obtain ⟨b, m, rfl, head, -⟩ := List.map_eq_cons_iff.1 h
      exact absurd head.symm (ne a b)
  | cons a l ih =>
    cases l' with
    | nil =>
      obtain ⟨b, m, rfl, head, -⟩ := List.map_eq_cons_iff.1 h.symm
      exact absurd head.symm (ne a b)
    | cons a' l' =>
      obtain ⟨head, tail⟩ := List.cons.inj h
      obtain ⟨first, second⟩ := ih tail
      exact ⟨by rw [List.map_cons, List.map_cons, head, first], second⟩

/-- What a test does: its requests and its assertions, each in order. -/
def contents (test : TestBlock) : List Request × List Assertion :=
  (test.requests, test.assertions)

theorem contents_of_statements {target : Target} {settings : Settings} {a b : TestBlock}
    (ha : target = .java → ∀ node ∈ a.assertions, FitsLong node)
    (hb : target = .java → ∀ node ∈ b.assertions, FitsLong node)
    (h : statements target settings a = statements target settings b) : contents a = contents b := by
  obtain ⟨requests, assertions⟩ := append_map_inj (request_ne_assertionLine target settings) h
  have same_requests : a.requests.map id = b.requests.map id :=
    map_eq_map_of_forall (fun _ _ _ _ => request_injective) requests
  have same_assertions : a.assertions.map id = b.assertions.map id :=
    map_eq_map_of_forall (fun x hx y hy => assertionLine_injective (fun java => ha java x hx)
      (fun java => hb java y hy)) assertions
  rw [List.map_id, List.map_id] at same_requests same_assertions
  exact congrArg₂ Prod.mk same_requests same_assertions

theorem statements_of_unitLines {target : Target} {settings : Settings} {a b : TestBlock}
    {name name' : String}
    (h : unitLines target settings a name = unitLines target settings b name') :
    statements target settings a = statements target settings b := by
  -- The opening lines may differ, but there are as many of them under every name.
  have opening : (openingLines target settings name).length =
      (openingLines target settings name').length := by cases target <;> rfl
  have indented := List.append_inj_right (List.append_cancel_right h) opening
  have same : (statements target settings a).map id = (statements target settings b).map id :=
    map_eq_map_of_forall (fun x _ y _ h => (String.append_right_inj _).1 h) indented
  rwa [List.map_id, List.map_id] at same

/-- A program whose contents can be read off its classes: no exact status is past the range of
`long`. -/
def StatusesFitLong (program : Program) : Prop :=
  ∀ test ∈ program.tests, ∀ node ∈ test.assertions, FitsLong node

theorem contents_of_unitBlocks {target : Target} {settings : Settings} {p q : Program}
    (hp : target = .java → StatusesFitLong p) (hq : target = .java → StatusesFitLong q)
    (h : unitBlocks target settings p = unitBlocks target settings q) :
    p.tests.map contents = q.tests.map contents := by
  have zipped : ∀ program : Program,
      (program.tests.zip (unitNames (program.tests.map (·.name)))).map (contents ∘ Prod.fst) =
        program.tests.map contents := by
    intro program
    rw [← List.map_map, map_fst_zip_unitNames]
  rw [← zipped p, ← zipped q]
  rw [unitBlocks, unitBlocks, ← List.map_uncurry_zip_eq_zipWith,
    ← List.map_uncurry_zip_eq_zipWith] at h
  refine map_eq_map_of_forall ?_ h
  intro a ha b hb same
  exact contents_of_statements (fun java => hp java a.1 (List.of_mem_zip ha).1)
    (fun java => hq java b.1 (List.of_mem_zip hb).1) (statements_of_unitLines same)

/-! ## The file as a whole -/

/-- **Nothing is lost.** Under accepted settings, the lines of a generated file are those of its
header and then, for each test in order, one unit: its opening lines under the test's unit name, a
line for each request and then one for each assertion, and its closing lines. The text ends with one
line feed. Two programs with the same text therefore have the same tests, up to the tests' names. -/
theorem document_keeps_contents (target : Target) {settings : Settings}
    (accepted : settings.Accepted) (sourceName : Option String) (outputName : Option RawText) :
    (∀ (program : Program) (file : String), NamesInLine program →
      text target settings sourceName outputName program = .ok file →
      ∃ header, headerLines target settings sourceName outputName = .ok header ∧
        splitLines file = header.flatMap splitLines ++
          (unitBlocks target settings program).flatMap (blankLines target ++ ·) ++
          (footer? target).toList ++ [""] ∧
        (unitBlocks target settings program).length = program.tests.length ∧
        (∀ test ∈ program.tests, ∀ node ∈ test.assertions,
          assertion target node = .ok (assertionLine target node)) ∧
        ∃ body, file = body ++ "\n" ∧ EndsInText body) ∧
    (∀ (p q : Program) (file : String), NamesInLine p → NamesInLine q →
      (target = .java → StatusesFitLong p ∧ StatusesFitLong q) →
      text target settings sourceName outputName p = .ok file →
      text target settings sourceName outputName q = .ok file →
      p.tests.map contents = q.tests.map contents) := by
  have fixture := plain_fixtureName accepted
  constructor
  · intro program file names h
    obtain ⟨writable, header, hheader, rfl⟩ := text_eq_ok_iff.1 h
    refine ⟨header, hheader, splitLines_document fixture names header, ?_, ?_, ?_⟩
    · rw [unitBlocks, List.length_zipWith, length_unitNames, List.length_map, Nat.min_self]
    · intro test test_mem node node_mem
      rw [assertion_eq, if_pos (writable test test_mem node node_mem)]
    · obtain ⟨front, last, lines, ends⟩ := exists_last_line program hheader
      refine ⟨String.ofList (written front) ++ last, ?_, ends.append_left _⟩
      rw [lines, ← String.toList_inj]
      simp
  · intro p q file hp hq fits h₁ h₂
    obtain ⟨-, header, hheader, rfl⟩ := text_eq_ok_iff.1 h₁
    obtain ⟨-, header', hheader', same⟩ := text_eq_ok_iff.1 h₂
    obtain rfl := Except.ok.inj (hheader.symm.trans hheader')
    have lines := congrArg splitLines same
    rw [splitLines_document fixture hp, splitLines_document fixture hq] at lines
    have separated := List.append_cancel_left
      (List.append_cancel_right (List.append_cancel_right lines))
    have blank : ∃ more, blankLines target = "" :: more := by
      cases target <;> exact ⟨_, rfl⟩
    obtain ⟨more, blank⟩ := blank
    rw [blank] at separated
    have blocks := units_injective empty_not_mem_unitBlocks empty_not_mem_unitBlocks separated
    exact contents_of_unitBlocks (fun java => (fits java).1) (fun java => (fits java).2) blocks

/-- Texts that look like the end of a unit, and the greatest status that a class can hold, do not
confuse the reading of a class. -/
theorem contents_apart_at_closing_brace :
    let p : Program := ⟨[⟨"a", [⟨.get, "/\"\\"⟩], [.bodyContains "\n    \x7d\n"]⟩, ⟨"a", [], []⟩]⟩
    let q : Program := ⟨[⟨"a", [⟨.get, "/\"\\"⟩], [.bodyContains ""]⟩,
      ⟨"a", [], [.statusEquals 9223372036854775807]⟩]⟩
    ∃ file, text .java {} none none p = .ok file ∧
      (∃ header, headerLines .java {} none none = .ok header ∧
        splitLines file = header.flatMap splitLines ++
          (unitBlocks .java {} p).flatMap ([""] ++ ·) ++ ["\x7d"] ++ [""]) ∧
      text .java {} none none q ≠ .ok file := by
  intro p q
  have keeps := document_keeps_contents .java ⟨.mapping [], rfl⟩ none none
  have names : NamesInLine p ∧ NamesInLine q := by simp [NamesInLine, p, q]
  have fits : StatusesFitLong p ∧ StatusesFitLong q := by
    simp [StatusesFitLong, p, q, FitsLong, JavaClass.longMax]
  refine ⟨_, rfl, ?_, ?_⟩
  · obtain ⟨header, hheader, lines, -⟩ := keeps.1 p _ names.1 rfl
    exact ⟨header, hheader, lines⟩
  · intro same
    have contents := keeps.2 p q _ names.1 names.2 (fun _ => fits) rfl same
    revert contents
    decide

end HttpSuite.Emit
