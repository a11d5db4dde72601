import HttpSuite.Yaml.Atom

/-!
# What documents denote

Collections are built level by level: a collection takes its place at once, and what it consists of is
built after the collections that were met before it. Keys of a mapping are scalars and occur once, the
first time with the last value. The value of a merge key is one mapping or several, whose entries are
put in front of the others. A document may contain itself, so its value is given down to a depth.

- `Graph.built`: what the nodes of a document denote.
- `Graph.value`: the value of a node down to a depth.
-/

namespace HttpSuite.Yaml

/-! ## Merge keys -/

namespace Graph

/-- The number of entries with merge keys. -/
def mergeCount (graph : Graph) : Nat :=
  graph.nodes.foldl (fun count node =>
    match node.content with
    | .mapping entries => count + entries.countP fun (key, _) => graph.tag key = .merge
    | _ => count) 0

/-- The entries of a mapping. -/
def entries (graph : Graph) (id : Nat) : List (Nat × Nat) :=
  match graph.content id with
  | .mapping entries => entries
  | _ => []

/-- Replace the entries of a mapping. -/
def putEntries (graph : Graph) (id : Nat) (entries : List (Nat × Nat)) : Graph :=
  graph.put id { graph.node id with content := .mapping entries }

/-- Make a text of a key for the default value. -/
def asText (graph : Graph) (key : Nat) : Graph :=
  if graph.tag key = .default then graph.put key { graph.node key with tag := .text } else graph

/-- Whether a node is a mapping. -/
def isMapping (graph : Graph) (id : Nat) : Bool :=
  match graph.content id with
  | .mapping _ => true
  | _ => false

/-- Put the entries that merge keys bring in front of the others, with `merged` in front of all. A merge
key is removed before the mappings it names are treated, so that a mapping may be merged into itself;
the fuel bounds the number of merge keys. -/
def merge : (fuel : Nat) → Nat → List (Nat × Nat) → Graph → Except Fault Graph
  | 0, _, _, _ => .error .malformed
  | fuel + 1, id, merged, graph =>
    let entries := graph.entries id
    match entries.findIdx? fun (key, _) => graph.tag key = .merge with
    | none =>
      let graph := entries.foldl (fun graph (key, _) => graph.asText key) graph
      .ok (if merged.isEmpty then graph else graph.putEntries id (merged ++ entries))
    | some index => do
      let graph := graph.putEntries id (entries.eraseIdx index)
      let value := (entries.getD index (0, 0)).2
      match graph.content value with
      | .mapping _ =>
        let graph ← merge fuel value [] graph
        merge fuel id (merged ++ graph.entries value) graph
      | .sequence items =>
        let (lists, graph) ← items.foldlM (fun (lists, graph) item =>
          if graph.isMapping item then do
            let graph ← merge fuel item [] graph
            return (graph.entries item :: lists, graph)
          else .error .malformed) (([] : List (List (Nat × Nat))), graph)
        merge fuel id (merged ++ lists.flatten) graph
      | .scalar _ => .error .malformed

end Graph

/-! ## Building -/

/-- What a node denotes; other nodes are given by their numbers. -/
inductive Built
  | atom (value : Atom)
  /-- A collection whose turn has not come. -/
  | waiting
  | sequence (items : List Nat)
  | pairs (entries : List (Nat × Nat))
  | mapping (entries : List (Atom × Nat))
  | set (keys : List Atom)

/-- The state of building: the nodes, what has been built, and the collections in waiting. -/
structure Building where
  graph : Graph
  built : Array (Option Built)
  queue : List Nat := []

/-- A part of building, which may fail. -/
abbrev Builder := StateT Building (Except Fault)

namespace Builder

/-- Note what a node denotes. -/
def note (id : Nat) (value : Built) : Builder Unit :=
  modify fun building => { building with built := building.built.setIfInBounds id (some value) }

/-- Build a node, unless it has been met before: a scalar at once, while a collection waits. -/
def meet (id : Nat) : Builder Unit := do
  let building ← get
  match building.built.getD id none with
  | some _ => pure ()
  | none =>
    match building.graph.tag id with
    | .sequence | .mapping | .set | .orderedMapping | .pairs =>
      note id .waiting
      modify fun building => { building with queue := building.queue ++ [id] }
    | _ => note id (.atom (← liftM (building.graph.atom id)))

/-- Build a key, which must be a scalar. -/
def key (id : Nat) : Builder Atom := do
  meet id
  match (← get).built.getD id none with
  | some (.atom value) => return value
  | _ => throw .malformed

/-- Put an entry into a mapping: a key that is there keeps its place and takes the new value. -/
def putEntry (entries : List (Atom × Nat)) (key : Atom) (value : Nat) : List (Atom × Nat) :=
  if entries.any fun entry => entry.1.same key then
    entries.map fun entry => if entry.1.same key then (entry.1, value) else entry
  else entries ++ [(key, value)]

/-- Build the entries of a mapping, with those that are merged into it. -/
def mapping (id : Nat) : Builder (List (Atom × Nat)) := do
  let graph := (← get).graph
  if !graph.isMapping id then throw .malformed
  else
    let graph ← liftM (graph.merge (graph.mergeCount + 1) id [])
    modify fun building => { building with graph }
    (graph.entries id).foldlM (fun done (keyId, valueId) => do
      let key ← key keyId
      meet valueId
      return putEntry done key valueId) []

/-- Build a list of mappings with one entry each. -/
def pairs (id : Nat) : Builder (List (Nat × Nat)) := do
  match (← get).graph.content id with
  | .sequence items =>
    items.foldlM (fun done item => do
      match (← get).graph.content item with
      | .mapping [(key, value)] =>
        meet key
        meet value
        return done ++ [(key, value)]
      | _ => throw .malformed) []
  | _ => throw .malformed

/-- Build a sequence. -/
def sequence (id : Nat) : Builder (List Nat) := do
  match (← get).graph.content id with
  | .sequence items =>
    items.forM meet
    return items
  | _ => throw .malformed

/-- Build a collection whose turn has come. -/
def collection (id : Nat) : Builder Unit := do
  match (← get).graph.tag id with
  | .mapping => note id (.mapping (← mapping id))
  | .set => note id (.set ((← mapping id).map (·.1)))
  | .orderedMapping | .pairs => note id (.pairs (← pairs id))
  | _ => note id (.sequence (← sequence id))

/-- Build all collections in waiting, each of which waits once. -/
def drain : (fuel : Nat) → Builder Unit
  | 0 => pure ()
  | fuel + 1 => do
    match (← get).queue with
    | [] => pure ()
    | id :: rest =>
      modify fun building => { building with queue := rest }
      collection id
      drain fuel

end Builder

namespace Graph

/-- What the nodes denote that can be reached from a root. -/
def built (graph : Graph) (root : Nat) : Except Fault (Array (Option Built)) := do
  let size := graph.nodes.size
  let start : Building := { graph, built := Array.replicate size none }
  let (_, building) ← (Builder.meet root *> Builder.drain size).run start
  return building.built

/-- The value of a node down to a depth, below which collections are empty. -/
def value (built : Array (Option Built)) : (depth : Nat) → Nat → Data
  | depth, id =>
    match depth, built.getD id none with
    | _, some (.atom value) => value.toData
    | depth + 1, some (.sequence items) => .list (items.map (Graph.value built depth))
    | depth + 1, some (.pairs entries) => .list (entries.map fun (key, value) =>
        .list [Graph.value built depth key, Graph.value built depth value])
    | depth + 1, some (.mapping entries) => .mapping (entries.map fun (key, value) =>
        (key.toData, Graph.value built depth value))
    | _, some (.mapping _) => .mapping []
    | _, some (.set keys) => .list (keys.map Atom.toData)
    | _, _ => .list []

end Graph

end HttpSuite.Yaml
