import HttpSuite.Proofs.Decimal
import HttpSuite.Proofs.Records
import Mathlib.Algebra.Group.Nat.Defs
import Mathlib.Algebra.Ring.Int.Defs

/-!
# Trees through loose data

A program is written as nested records, and each of its integers may stand there as a number or by its
decimal text (`Program.WrittenAs`). Reading such data gives the program back if its integers are read
back (`Program.WrittenAs.ofData_eq_ok`), and a text is read as its integer unless it has more digits than
the limit (`integer_numeral`). The proof follows the shape of the data: one lemma for the assertions, by
their kinds, one for tests and one for programs.
-/

namespace HttpSuite

/-! ## Integers -/

/-- The integers of an assertion. -/
def Assertion.integers : Assertion → List Int
  | .statusEquals code => [code]
  | .statusInRange min max => [min, max]
  | .bodyContains _ | .headerEquals _ _ => []

/-- The integers of a test. -/
def TestBlock.integers (test : TestBlock) : List Int :=
  test.assertions.flatMap Assertion.integers

/-- The integers of a program. -/
def Program.integers (program : Program) : List Int :=
  program.tests.flatMap TestBlock.integers

/-! ## Written trees -/

section Written

variable (form : Int → Data → Prop)

/-- An assertion as data, with its integers in a form of their own each. -/
inductive Assertion.WrittenAs : Assertion → Data → Prop
  | statusEquals {code : Int} {codeData : Data} : form code codeData →
      WrittenAs (.statusEquals code)
        (.record [("kind", .text "status_equals"), ("code", codeData)])
  | statusInRange {min max : Int} {minData maxData : Data} : form min minData → form max maxData →
      WrittenAs (.statusInRange min max)
        (.record [("kind", .text "status_in_range"), ("min", minData), ("max", maxData)])
  | bodyContains {text : String} :
      WrittenAs (.bodyContains text) (.record [("kind", .text "body_contains"), ("text", .text text)])
  | headerEquals {name value : String} :
      WrittenAs (.headerEquals name value)
        (.record [("kind", .text "header_equals"), ("name", .text name), ("value", .text value)])

/-- A test as data. -/
inductive TestBlock.WrittenAs : TestBlock → Data → Prop
  | mk {name : String} {requests : List Request} {assertions : List Assertion} {items : List Data} :
      List.Forall₂ (Assertion.WrittenAs form) assertions items →
      WrittenAs ⟨name, requests, assertions⟩
        (.record [("name", .text name), ("requests", .list (requests.map Request.toData)),
          ("assertions", .list items)])

/-- A program as data. -/
inductive Program.WrittenAs : Program → Data → Prop
  | mk {tests : List TestBlock} {items : List Data} :
      List.Forall₂ (TestBlock.WrittenAs form) tests items →
      WrittenAs ⟨tests⟩ (.record [("tests", .list items)])

end Written

/-! ## Reading -/

variable {form : Int → Data → Prop} {data : Data}

theorem Request.ofData_toData (request : Request) :
    Request.ofData request.toData = .ok request := by
  rw [ofData, toData, Checked.entries_record, Checked.andThen_ok]
  refine Checked.map₂_eq_ok.2 ⟨_, _, ?_, ?_, rfl⟩
  · refine (Checked.required_eq_ok rfl).2 ?_
    cases request.method <;> rfl
  · exact (Checked.required_eq_ok rfl).2 rfl

theorem Request.items_toData (requests : List Request) :
    Checked.items Request.ofData (.list (requests.map toData)) = .ok requests := by
  rw [Checked.items_eq_ok, List.forall₂_map_left_iff]
  exact List.forall₂_same.2 fun request _ => ofData_toData request

namespace Assertion

variable {assertion : Assertion}

/-- An assertion is read by the fields of its kind. -/
theorem ofData_record {fields : List (String × Data)} {kind : String} {reading : Checked Assertion}
    (tagged : fields.lookup "kind" = some (.text kind))
    (known : ofEntries? (Data.entriesOf fields) kind = some reading) :
    Assertion.ofData (.record fields) = reading.within (.key kind) := by
  change Assertion.ofData (.mapping (Data.entriesOf fields)) = _
  simp only [Assertion.ofData, Data.field?_entriesOf, tagged, known]

theorem WrittenAs.ofData_eq_ok (h : assertion.WrittenAs form data)
    (reads : ∀ n ∈ assertion.integers, ∀ d, form n d → Checked.integer d = .ok n) :
    Assertion.ofData data = .ok assertion := by
  cases h with
  | statusEquals code =>
    rw [ofData_record rfl rfl, Checked.within_eq_ok]
    refine Checked.map_eq_ok.2 ⟨_, ?_, rfl⟩
    exact (Checked.required_eq_ok rfl).2 (reads _ (by simp [integers]) _ code)
  | statusInRange min max =>
    rw [ofData_record rfl rfl, Checked.within_eq_ok]
    refine Checked.map₂_eq_ok.2 ⟨_, _, ?_, ?_, rfl⟩
    · exact (Checked.required_eq_ok rfl).2 (reads _ (by simp [integers]) _ min)
    · exact (Checked.required_eq_ok rfl).2 (reads _ (by simp [integers]) _ max)
  | bodyContains =>
    rw [ofData_record rfl rfl, Checked.within_eq_ok]
    exact Checked.map_eq_ok.2 ⟨_, (Checked.required_eq_ok rfl).2 rfl, rfl⟩
  | headerEquals =>
    rw [ofData_record rfl rfl, Checked.within_eq_ok]
    refine Checked.map₂_eq_ok.2 ⟨_, _, ?_, ?_, rfl⟩
    · exact (Checked.required_eq_ok rfl).2 rfl
    · exact (Checked.required_eq_ok rfl).2 rfl

theorem writtenAs_toData (numbers : ∀ n, form n (.int n)) (assertion : Assertion) :
    assertion.WrittenAs form assertion.toData := by
  cases assertion with
  | statusEquals code => exact .statusEquals (numbers code)
  | statusInRange min max => exact .statusInRange (numbers min) (numbers max)
  | bodyContains text => exact .bodyContains
  | headerEquals name value => exact .headerEquals

end Assertion

namespace TestBlock

variable {test : TestBlock}

theorem WrittenAs.ofData_eq_ok (h : test.WrittenAs form data)
    (reads : ∀ n ∈ test.integers, ∀ d, form n d → Checked.integer d = .ok n) :
    TestBlock.ofData data = .ok test := by
  cases h with
  | mk assertions =>
    have read := (List.forall₂_and_left _ _).2 ⟨fun node mem n hn =>
      reads n (List.mem_flatMap.2 ⟨node, mem, hn⟩), assertions⟩
    have items := (read.imp fun _ _ each => each.2.ofData_eq_ok each.1).flip
    rw [ofData, Checked.entries_record, Checked.andThen_ok]
    refine Checked.map₃_eq_ok.2 ⟨_, _, _, ?_, ?_, ?_, rfl⟩
    · exact (Checked.required_eq_ok rfl).2 rfl
    · exact (Checked.field_eq_ok rfl).2 (Request.items_toData _)
    · exact (Checked.field_eq_ok rfl).2 (Checked.items_eq_ok.2 items)

theorem writtenAs_toData (numbers : ∀ n, form n (.int n)) (test : TestBlock) :
    test.WrittenAs form test.toData := by
  refine .mk ?_
  rw [List.forall₂_map_right_iff]
  exact List.forall₂_same.2 fun assertion _ => assertion.writtenAs_toData numbers

end TestBlock

namespace Program

variable {program : Program}

/-- A written program is read back if its integers are. -/
theorem WrittenAs.ofData_eq_ok (h : program.WrittenAs form data)
    (reads : ∀ n ∈ program.integers, ∀ d, form n d → Checked.integer d = .ok n) :
    Program.ofData data = .ok program := by
  cases h with
  | mk tests =>
    have read := (List.forall₂_and_left _ _).2 ⟨fun test mem n hn =>
      reads n (List.mem_flatMap.2 ⟨test, mem, hn⟩), tests⟩
    have items := (read.imp fun _ _ each => each.2.ofData_eq_ok each.1).flip
    rw [ofData, Checked.entries_record, Checked.andThen_ok]
    exact Checked.map_eq_ok.2 ⟨_, (Checked.field_eq_ok rfl).2 (Checked.items_eq_ok.2 items), rfl⟩

theorem writtenAs_toData (numbers : ∀ n, form n (.int n)) (program : Program) :
    program.WrittenAs form program.toData := by
  refine .mk ?_
  rw [List.forall₂_map_right_iff]
  exact List.forall₂_same.2 fun test _ => test.writtenAs_toData numbers

end Program

end HttpSuite
