import HttpSuite.Program.WellFormed
import Mathlib.Data.List.Basic

/-!
# The first violation

A program is well-formed if it has a test and every test keeps two rules: it sends a request, and it
checks at least twice (`KeepsRules`). Otherwise there is a first test that breaks a rule, at one place
only (`Breach.FirstOf.unique`), and it decides the outcome, by its requests before its assertions
(`validate_of_breach`). The tests behind it are not looked at.
-/

namespace HttpSuite

/-! ## One test -/

namespace TestBlock

variable {test : TestBlock}

/-- A test that sends a request and checks at least twice. -/
structure KeepsRules (test : TestBlock) : Prop where
  requests : test.requests ≠ []
  assertions : 2 ≤ test.assertions.length

/-- What is reported of a test: requests are looked at first, and then assertions. -/
theorem violation?_cases (test : TestBlock) :
    (test.requests = [] ∧ test.violation? = some ⟨.emptyTest, some test.name, none⟩) ∨
    ((test.requests ≠ [] ∧ test.assertions.length < 2) ∧ test.violation? =
      some ⟨.insufficientAssertions, some test.name, some test.assertions.length⟩) ∨
    (test.KeepsRules ∧ test.violation? = none) := by
  rw [violation?, minAssertions]
  by_cases none : test.requests = []
  · rw [if_pos (by simpa using none)]
    exact .inl ⟨none, rfl⟩
  · rw [if_neg (by simpa using none)]
    by_cases few : test.assertions.length < 2
    · rw [if_pos few]
      exact .inr (.inl ⟨⟨none, few⟩, rfl⟩)
    · rw [if_neg few]
      exact .inr (.inr ⟨⟨none, Nat.le_of_not_lt few⟩, rfl⟩)

theorem violation?_eq_none_iff : test.violation? = none ↔ test.KeepsRules := by
  rcases test.violation?_cases with ⟨none, reported⟩ | ⟨⟨-, few⟩, reported⟩ | ⟨kept, reported⟩
  · rw [reported]
    exact iff_of_false (Option.some_ne_none _) fun kept => kept.requests none
  · rw [reported]
    exact iff_of_false (Option.some_ne_none _) fun kept => absurd kept.assertions (Nat.not_le.2 few)
  · exact iff_of_true reported kept

theorem violation?_ne_noTests : test.violation? ≠ some ⟨.noTests, none, none⟩ := by
  rcases test.violation?_cases with ⟨-, reported⟩ | ⟨-, reported⟩ | ⟨-, reported⟩ <;>
    simp [reported]

end TestBlock

/-! ## The first test that breaks a rule -/

/-- A test of a list, with what stands before and behind it. -/
structure Breach where
  before : List TestBlock
  test : TestBlock
  after : List TestBlock

/-- The test breaks a rule, and it is the first one to do so. -/
structure Breach.FirstOf (breach : Breach) (tests : List TestBlock) : Prop where
  split : tests = breach.before ++ breach.test :: breach.after
  kept : ∀ test ∈ breach.before, test.KeepsRules
  broken : ¬ breach.test.KeepsRules

namespace Breach.FirstOf

variable {tests : List TestBlock} {breach other : Breach}

/-- No place in front of a first breach is a breach. -/
theorem eq_nil_of_append (h : breach.FirstOf tests) (ho : other.FirstOf tests)
    {more : List TestBlock} (longer : breach.before = other.before ++ more) : more = [] := by
  cases more with
  | nil => rfl
  | cons test more =>
    have same := h.split.symm.trans ho.split
    rw [longer, List.append_assoc] at same
    have head : test = other.test := List.head_eq_of_cons_eq (List.append_cancel_left same)
    have kept := h.kept test (by rw [longer]; exact List.mem_append_right _ List.mem_cons_self)
    exact absurd (head ▸ kept) ho.broken

theorem unique (h : breach.FirstOf tests) (ho : other.FirstOf tests) : breach = other := by
  have same := h.split.symm.trans ho.split
  have before : breach.before = other.before := by
    -- One of the two fronts continues the other, by nothing.
    rcases List.append_eq_append_iff.1 same with ⟨more, longer, -⟩ | ⟨more, longer, -⟩
    · rw [longer, ho.eq_nil_of_append h longer, List.append_nil]
    · rw [longer, h.eq_nil_of_append ho longer, List.append_nil]
  rw [before] at same
  obtain ⟨test, after⟩ := List.cons.inj (List.append_cancel_left same)
  cases breach
  cases other
  congr

theorem exists_violation (h : breach.FirstOf tests) :
    ∃ violation, breach.test.violation? = some violation :=
  Option.ne_none_iff_exists'.1 (TestBlock.violation?_eq_none_iff.not.2 h.broken)

/-- Only the first test that breaks a rule is reported. -/
theorem program_violation? (h : breach.FirstOf tests) :
    (Program.mk tests).violation? = breach.test.violation? := by
  have kept : breach.before.findSome? TestBlock.violation? = none := by
    rw [List.findSome?_eq_none_iff]
    exact fun test hm => TestBlock.violation?_eq_none_iff.2 (h.kept test hm)
  obtain ⟨violation, broken⟩ := h.exists_violation
  rw [Program.violation?, h.split, List.findSome?_append, kept, List.findSome?_cons, broken]
  simp

/-- What stands behind the first breach does not matter. -/
theorem change_after (h : breach.FirstOf tests) (others : List TestBlock) :
    FirstOf ⟨breach.before, breach.test, others⟩ (breach.before ++ breach.test :: others) :=
  ⟨rfl, h.kept, h.broken⟩

end Breach.FirstOf

theorem exists_firstOf {tests : List TestBlock} (h : ¬ ∀ test ∈ tests, test.KeepsRules) :
    ∃ breach : Breach, breach.FirstOf tests := by
  have found : tests.findSome? TestBlock.violation? ≠ none := by
    rw [ne_eq, List.findSome?_eq_none_iff]
    exact fun none => h fun test hm => TestBlock.violation?_eq_none_iff.1 (none test hm)
  obtain ⟨violation, found⟩ := Option.ne_none_iff_exists'.1 found
  obtain ⟨before, test, after, split, broken, kept⟩ := List.findSome?_eq_some_iff.1 found
  refine ⟨⟨before, test, after⟩, split, ?_, ?_⟩
  · exact fun earlier hm => TestBlock.violation?_eq_none_iff.1 (kept earlier hm)
  · rw [← TestBlock.violation?_eq_none_iff, broken]
    exact Option.some_ne_none violation

/-! ## Programs -/

namespace Program

variable {program result : Program} {violation : Violation}

theorem validate_eq_ok_iff :
    program.validate = .ok result ↔ result = program ∧ program.violation? = none := by
  rw [validate]
  cases program.violation? <;> simp [eq_comm]

theorem validate_eq_error_iff :
    program.validate = .error violation ↔ program.violation? = some violation := by
  rw [validate]
  cases program.violation? <;> simp

theorem violation?_eq_none_iff :
    program.violation? = none ↔ program.tests ≠ [] ∧ ∀ test ∈ program.tests, test.KeepsRules := by
  rw [violation?]
  by_cases empty : program.tests = [] <;> simp [empty, TestBlock.violation?_eq_none_iff]

theorem violation?_eq_noTests_iff :
    program.violation? = some ⟨.noTests, none, none⟩ ↔ program.tests = [] := by
  rw [violation?]
  by_cases empty : program.tests = []
  · rw [if_pos (by simpa using empty)]
    exact iff_of_true rfl empty
  · rw [if_neg (by simpa using empty)]
    refine iff_of_false (fun reported => ?_) empty
    obtain ⟨test, -, broken⟩ := List.exists_of_findSome?_eq_some reported
    exact TestBlock.violation?_ne_noTests broken

end Program

/-- The test at the first breach decides the outcome. -/
theorem validate_of_breach {breach : Breach} {program : Program}
    (h : breach.FirstOf program.tests) :
    (breach.test.requests = [] →
      program.validate = .error ⟨.emptyTest, some breach.test.name, none⟩) ∧
    (breach.test.requests ≠ [] →
      breach.test.assertions.length < 2 ∧ program.validate = .error
        ⟨.insufficientAssertions, some breach.test.name, some breach.test.assertions.length⟩) := by
  rw [Program.validate_eq_error_iff, Program.validate_eq_error_iff, h.program_violation?]
  rcases breach.test.violation?_cases with ⟨none, reported⟩ | ⟨⟨some, few⟩, reported⟩ | ⟨kept, -⟩
  · exact ⟨fun _ => reported, fun some => absurd none some⟩
  · exact ⟨fun none => absurd none some, fun _ => ⟨few, reported⟩⟩
  · exact absurd kept h.broken

/-- **Validation is exact.** A program is returned, and as it is, exactly if it has a test and every
test keeps the rules. It is refused for having no tests exactly if it has none. Otherwise one test is
the first that breaks a rule, and it is reported by its name: for having no request, or else with the
number of its assertions. What stands behind it makes no difference. -/
theorem validate_reports_first_violation (program : Program) :
    (∀ result, program.validate = .ok result ↔
      result = program ∧ program.tests ≠ [] ∧ ∀ test ∈ program.tests, test.KeepsRules) ∧
    (program.validate = .error ⟨.noTests, none, none⟩ ↔ program.tests = []) ∧
    ((¬ ∀ test ∈ program.tests, test.KeepsRules) →
      ∃! breach : Breach, breach.FirstOf program.tests) ∧
    ∀ breach : Breach, breach.FirstOf program.tests →
      (breach.test.requests = [] →
        program.validate = .error ⟨.emptyTest, some breach.test.name, none⟩) ∧
      (breach.test.requests ≠ [] →
        (breach.test.assertions.length = 0 ∨ breach.test.assertions.length = 1) ∧
        program.validate = .error
          ⟨.insufficientAssertions, some breach.test.name, some breach.test.assertions.length⟩) ∧
      ∀ others, (Program.mk (breach.before ++ breach.test :: others)).validate =
        program.validate := by
  refine ⟨fun result => ?_, ?_, ?_, ?_⟩
  · rw [Program.validate_eq_ok_iff, Program.violation?_eq_none_iff]
  · rw [Program.validate_eq_error_iff, Program.violation?_eq_noTests_iff]
  · intro broken
    obtain ⟨breach, first⟩ := exists_firstOf broken
    exact ⟨breach, first, fun other ho => ho.unique first⟩
  · intro breach first
    obtain ⟨empty, few⟩ := validate_of_breach first
    refine ⟨empty, fun some => ⟨?_, (few some).2⟩, fun others => ?_⟩
    · have bound := (few some).1
      omega
    · obtain ⟨violation, broken⟩ := first.exists_violation
      rw [Program.validate_eq_error_iff.2 (first.program_violation?.trans broken),
        Program.validate_eq_error_iff.2 ((first.change_after others).program_violation?.trans broken)]

/-- A test with one check is reported although a later one has no request at all, and it is reported
in the same way without the later one. -/
theorem validate_reports_before_later_empty_test :
    let good : TestBlock := ⟨"Good", [⟨.get, "/"⟩], [.statusEquals 200, .bodyContains "ok"]⟩
    let few : TestBlock := ⟨"Few", [⟨.get, "/"⟩], [.statusEquals 200]⟩
    let bare : TestBlock := ⟨"Bare", [], []⟩
    Breach.FirstOf ⟨[good], few, [bare]⟩ [good, few, bare] ∧
    (∃! breach : Breach, breach.FirstOf [good, few, bare]) ∧
    (Program.mk [good, few, bare]).validate =
      .error ⟨.insufficientAssertions, some "Few", some 1⟩ ∧
    (Program.mk [good, few]).validate = .error ⟨.insufficientAssertions, some "Few", some 1⟩ := by
  intro good few bare
  have first : Breach.FirstOf ⟨[good], few, [bare]⟩ [good, few, bare] := by
    refine ⟨rfl, ?_, fun kept => absurd kept.assertions (by decide)⟩
    intro test hm
    obtain rfl := List.mem_singleton.1 hm
    exact ⟨List.cons_ne_nil _ _, Nat.le_refl 2⟩
  have refused : ¬ ∀ test ∈ [good, few, bare], test.KeepsRules :=
    fun kept => (kept bare (by simp)).requests rfl
  obtain ⟨-, -, unique, outcome⟩ := validate_reports_first_violation ⟨[good, few, bare]⟩
  obtain ⟨-, reported, behind⟩ := outcome ⟨[good], few, [bare]⟩ first
  have count := (reported (List.cons_ne_nil _ _)).2
  exact ⟨first, unique refused, count, (behind []).trans count⟩

end HttpSuite
