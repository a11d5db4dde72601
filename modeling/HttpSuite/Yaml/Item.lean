/-!
# Items

The pieces that a document consists of, after its indentation has been turned into starts and ends of
blocks.
-/

namespace HttpSuite.Yaml

/-- What a directive says. -/
inductive Directive
  | version (major : Nat)
  /-- Tags may be shortened: the handle stands for the expansion. -/
  | handle (handle expansion : String)
  | other
  deriving DecidableEq, Repr

/-- One piece of a document. -/
inductive Item
  | directive (directive : Directive)
  | documentStart
  | documentEnd
  | blockSequenceStart
  | blockEnd
  | flowSequenceStart
  | flowSequenceEnd
  | flowMappingStart
  | flowMappingEnd
  | flowEntry
  | blockEntry
  /-- The start of a key; `opens` if a block mapping starts with it. -/
  | key (opens : Bool)
  | value
  | alias (name : String)
  | anchor (name : String)
  /-- A tag without a handle is complete. -/
  | tag (handle : Option String) (suffix : String)
  /-- A scalar by its code points, which an escape may make no characters. -/
  | scalar (points : List Nat) (plain : Bool)
  /-- A place where a key may turn out to start. -/
  | slot
  deriving DecidableEq, Repr

end HttpSuite.Yaml
