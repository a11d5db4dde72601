import HttpSuite.Token

/-!
# Programs

The tree of a test script: test blocks in order, each with its requests and its assertions in order.
How requests and assertions were interleaved is not kept.
-/

namespace HttpSuite

/-- One request of a test. -/
structure Request where
  method : Method
  path : String
  deriving DecidableEq, Repr

/-- One check on the last response of a test. -/
inductive Assertion
  | statusEquals (code : Int)
  /-- Both ends are included. -/
  | statusInRange (min max : Int)
  | bodyContains (text : String)
  | headerEquals (name value : String)
  deriving DecidableEq, Repr

/-- A named test. -/
structure TestBlock where
  name : String
  requests : List Request
  assertions : List Assertion
  deriving DecidableEq, Repr

/-- A whole script. -/
structure Program where
  tests : List TestBlock
  deriving DecidableEq, Repr

/-- The number of requests of a script. -/
def Program.requestCount (program : Program) : Nat :=
  (program.tests.map (·.requests.length)).foldr (· + ·) 0

/-- The number of assertions of a script. -/
def Program.assertionCount (program : Program) : Nat :=
  (program.tests.map (·.assertions.length)).foldr (· + ·) 0

end HttpSuite
