import HttpSuite.Diagnostic

/-!
# Well-formed programs

The rules that the grammar does not express: a program has a test, and every test has a request and
at least two assertions. The first broken rule is reported, tests in order and, within a test, the
requests first.
-/

namespace HttpSuite

/-- The least number of assertions of a test. -/
def minAssertions : Nat := 2

/-- The first rule that a test breaks. -/
def TestBlock.violation? (test : TestBlock) : Option Violation :=
  if test.requests.isEmpty then some (.emptyTest test.name)
  else if test.assertions.length < minAssertions then
    some (.insufficientAssertions test.name test.assertions.length)
  else none

/-- The first rule that a program breaks. -/
def Program.violation? (program : Program) : Option Violation :=
  if program.tests.isEmpty then some .noTests else program.tests.findSome? TestBlock.violation?

/-- The program itself if it is well-formed. -/
def Program.validate (program : Program) : Except Violation Program :=
  match program.violation? with
  | none => .ok program
  | some violation => .error violation

end HttpSuite
