/-!
# Runs of letters

Mappings between the cases are kept as arithmetic runs of letters, since neighbouring letters mostly
map by the same distance.
-/

namespace HttpSuite.Text

/-- The letters `first`, `first + step`, … up to `last`, each mapped by adding `shift`. -/
structure CaseRun where
  first : Nat
  last : Nat
  step : Nat
  shift : Int

/-- Whether a code point is one of the run's letters. -/
def CaseRun.covers (run : CaseRun) (n : Nat) : Bool :=
  run.first ≤ n && n ≤ run.last && (n - run.first) % run.step == 0

/-- The code point that a letter of the run maps to. -/
def CaseRun.shifted (run : CaseRun) (n : Nat) : Nat :=
  ((n : Int) + run.shift).toNat

end HttpSuite.Text
