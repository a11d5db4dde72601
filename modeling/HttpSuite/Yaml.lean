import HttpSuite.Yaml.Scan
import HttpSuite.Yaml.Value

/-!
# YAML

The value of the only document in a text. The text is examined in chunks: what may not stand in a
document is a fault when its chunk is reached, and the first two chunks are reached at once.

- `Yaml.value`: the value of a text.
-/

namespace HttpSuite.Yaml

/-- The number of characters of a chunk. -/
def chunkSize : Nat := 4096

/-- The number of whole chunks in a number of characters that can be read before the next one is
reached, if there are any: the first two count together. -/
def chunksBefore? (count : Nat) : Option Nat :=
  if count < 2 * chunkSize then none else some (count / chunkSize)

/-- How deep the value of a document is looked into. -/
def depth : Nat := 4

/-- The value of a text without forbidden characters, of which all or the first part is given. -/
def valueOf (complete : Bool) (cs : List Char) : Except Fault Data := do
  let (root, graph) ← Graph.ofItems (itemsOf complete cs)
  return Graph.value (← graph.built root) depth root

/-- The value of a text with unified line ends, of which all or the first part is given. That the text
is unfinished is only reported of a first part. -/
def value (complete : Bool) (cs : List Char) : Except Fault Data :=
  match cs.findIdx? (!isPrintable ·) with
  | none =>
    (valueOf complete cs).mapError fun fault =>
      if fault = .unfinished && complete then .malformed else fault
  | some index =>
    match chunksBefore? index with
    | none => .error .malformed
    | some chunks =>
      (valueOf false (cs.take (chunks * chunkSize))).mapError fun fault =>
        if fault = .unfinished then .malformed else fault

end HttpSuite.Yaml
