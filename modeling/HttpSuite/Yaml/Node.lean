import HttpSuite.Yaml.Plain
import HttpSuite.Yaml.Scan

/-!
# Nodes

The nodes of a document: scalars, sequences and mappings, each with its tag. An alias stands for the
very node it names, also inside that node, so nodes are numbered and collections hold numbers.

- `Graph.ofItems`: the nodes of the only document among items, and the number of its root.
-/

namespace HttpSuite.Yaml

/-- What a node consists of; other nodes are given by their numbers. -/
inductive Content
  | scalar (points : List Nat)
  | sequence (items : List Nat)
  | mapping (entries : List (Nat × Nat))
  deriving DecidableEq, Repr

/-- A node of a document. -/
structure Node where
  tag : Tag
  content : Content
  deriving DecidableEq, Repr

/-- The node where none is written. -/
def Node.empty : Node := ⟨.null, .scalar []⟩

/-- The nodes of a document, by number. -/
structure Graph where
  nodes : Array Node := #[]

namespace Graph

/-- The node with a number. -/
def node (graph : Graph) (id : Nat) : Node :=
  graph.nodes.getD id Node.empty

/-- The tag of a node. -/
def tag (graph : Graph) (id : Nat) : Tag :=
  (graph.node id).tag

/-- What a node consists of. -/
def content (graph : Graph) (id : Nat) : Content :=
  (graph.node id).content

/-- Replace a node. -/
def put (graph : Graph) (id : Nat) (node : Node) : Graph :=
  ⟨graph.nodes.setIfInBounds id node⟩

end Graph

/-! ## Reading -/

/-- What is left of the items, why there are no more, and what has been read. -/
structure Reading where
  items : List Item
  fault : Option Fault := none
  anchors : List (String × Nat) := []
  graph : Graph := {}
  /-- The number of collections that are being read. -/
  depth : Nat := 0

/-- How many collections may lie within each other. -/
def greatestDepth : Nat := 485

/-- A part of a document that may be faulty. -/
abbrev Reader := StateT Reading (Except Fault)

namespace Reader

/-- The next item, or none at the end. -/
def peek : Reader (Option Item) := do
  let reading ← get
  match reading.items.head?, reading.fault with
  | none, some fault => throw fault
  | next, _ => return next

/-- Pass the next item. -/
def skip : Reader Unit :=
  modify fun reading => { reading with items := reading.items.drop 1 }

/-- Pass a given item. -/
def expect (item : Item) : Reader Unit := do
  if (← peek) = some item then skip else throw .malformed

/-- Whether the next item is one of several. -/
def sees (items : List Item) : Reader Bool := do
  match ← peek with
  | some item => return items.contains item
  | none => return false

/-- The node that an alias stands for. -/
def aliased (name : String) : Reader Nat := do
  match (← get).anchors.lookup name with
  | none => throw .malformed
  | some id => return id

/-- Add a node. -/
def add (node : Node) : Reader Nat := do
  let id := (← get).graph.nodes.size
  modify fun reading => { reading with graph := ⟨reading.graph.nodes.push node⟩ }
  return id

/-- Give a name to a node. -/
def name (anchor : Option String) (id : Nat) : Reader Unit :=
  match anchor with
  | none => pure ()
  | some anchor =>
    modify fun reading => { reading with anchors := (anchor, id) :: reading.anchors }

/-- It is a fault if a name has been given before. -/
def refuseTaken (anchor : Option String) : Reader Unit := do
  match anchor with
  | none => pure ()
  | some anchor => if ((← get).anchors.lookup anchor).isSome then throw .malformed

/-- Read what lies within a collection. -/
def deeper (read : Reader Content) : Reader Content := do
  let depth := (← get).depth
  if greatestDepth ≤ depth then throw .tooDeep
  modify fun reading => { reading with depth := depth + 1 }
  let content ← read
  modify fun reading => { reading with depth }
  return content

/-- Add a collection. It has its number, and its name, before what it consists of is read. -/
def collect (anchor : Option String) (tag : Tag) (read : Reader Content) : Reader Nat := do
  let id ← add ⟨tag, .scalar []⟩
  name anchor id
  let content ← deeper read
  modify fun reading => { reading with graph := reading.graph.put id ⟨tag, content⟩ }
  return id

end Reader

/-- What may stand in front of a node. -/
structure Properties where
  anchor : Option String := none
  /-- The tag in full; an exclamation mark alone is none of its own. -/
  tag : Option String := none

namespace Properties

/-- Expand the handle of a tag. -/
def expand (handles : List (String × String)) (handle : Option String) (suffix : String) :
    Reader String :=
  match handle with
  | none => return suffix
  | some handle =>
    match handles.lookup handle with
    | some expansion => return expansion ++ suffix
    | none => throw .malformed

/-- Read an anchor and a tag, in either order. -/
def read (handles : List (String × String)) : Reader Properties := do
  match ← Reader.peek with
  | some (.anchor name) =>
    Reader.skip
    match ← Reader.peek with
    | some (.tag handle suffix) =>
      Reader.skip
      return { anchor := some name, tag := some (← expand handles handle suffix) }
    | _ => return { anchor := some name }
  | some (.tag handle suffix) =>
    Reader.skip
    match ← Reader.peek with
    | some (.anchor name) =>
      Reader.skip
      return { anchor := some name, tag := some (← expand handles handle suffix) }
    | _ => return { tag := some (← expand handles handle suffix) }
  | _ => return {}

/-- Whether nothing stands in front of a node. -/
def isEmpty (properties : Properties) : Bool :=
  properties.anchor.isNone && properties.tag.isNone

/-- The tag of a collection. -/
def collectionTag (properties : Properties) (usual : Tag) : Tag :=
  match properties.tag with
  | none | some "!" => usual
  | some tag => .ofText tag

/-- The tag of a scalar: its own, or the one that its form gives to a plain one. -/
def scalarTag (properties : Properties) (points : List Nat) (plain : Bool) : Tag :=
  match properties.tag with
  | none => if plain then .ofPlain points else .text
  | some "!" => .ofPlain points
  | some tag => .ofText tag

end Properties

namespace Reader

/-- Add a scalar with its properties. -/
def addScalar (properties : Properties) (points : List Nat) (plain : Bool) : Reader Nat := do
  let id ← add ⟨properties.scalarTag points plain, .scalar points⟩
  name properties.anchor id
  return id

/-- Add a sequence with its properties. -/
def addSequence (properties : Properties) (items : Reader (List Nat)) : Reader Nat :=
  collect properties.anchor (properties.collectionTag .sequence) (Content.sequence <$> items)

/-- Add a mapping with its properties. -/
def addMapping (properties : Properties) (entries : Reader (List (Nat × Nat))) : Reader Nat :=
  collect properties.anchor (properties.collectionTag .mapping) (Content.mapping <$> entries)

end Reader

namespace Reader

/-- Items that end a part of a block mapping, and so leave it empty. -/
def blockStops : List Item := [.key false, .value, .blockEnd]

/-- Items that end a key between brackets. -/
def flowKeyStops (close : Item) : List Item := [.value, .flowEntry, close]

/-- Items that end a value between brackets. -/
def flowValueStops (close : Item) : List Item := [.flowEntry, close]

mutual

/-- Read a node. Blocks are allowed outside brackets only, and a sequence may be as far to the left as
the mapping around it. -/
def node (handles : List (String × String)) :
    (fuel : Nat) → (block indentless : Bool) → Reader Nat
  | 0, _, _ => throw .malformed
  | fuel + 1, block, indentless => do
    match ← peek with
    | some (.alias name) =>
      skip
      aliased name
    | _ => content handles fuel block indentless (← Properties.read handles)

/-- Read what a node consists of, after its properties. -/
def content (handles : List (String × String)) :
    (fuel : Nat) → (block indentless : Bool) → Properties → Reader Nat
  | 0, _, _, _ => throw .malformed
  | fuel + 1, block, indentless, properties => do
    let next ← peek
    refuseTaken properties.anchor
    match block, indentless, next with
    | _, true, some .blockEntry =>
      addSequence properties (indentlessItems handles fuel)
    | _, _, some (.scalar points plain) =>
      skip
      addScalar properties points plain
    | _, _, some .flowSequenceStart =>
      skip
      addSequence properties (flowItems handles fuel true)
    | _, _, some .flowMappingStart =>
      skip
      addMapping properties (flowEntries handles fuel true)
    | true, _, some .blockSequenceStart =>
      skip
      addSequence properties (blockItems handles fuel)
    | true, _, some (.key true) =>
      addMapping properties (blockEntries handles fuel true)
    | _, _, _ =>
      if properties.isEmpty then throw .malformed else addScalar properties [] true

/-- Read a node, unless an item that leaves it empty comes next. -/
def orEmpty (handles : List (String × String)) :
    (fuel : Nat) → (stops : List Item) → (block indentless : Bool) → Reader Nat
  | 0, _, _, _ => throw .malformed
  | fuel + 1, stops, block, indentless => do
    if ← sees stops then add Node.empty else node handles fuel block indentless

/-- Read a value if a colon comes next. -/
def valueOrEmpty (handles : List (String × String)) :
    (fuel : Nat) → (stops : List Item) → (block : Bool) → Reader Nat
  | 0, _, _ => throw .malformed
  | fuel + 1, stops, block => do
    if (← peek) = some .value then
      skip
      orEmpty handles fuel stops block block
    else add Node.empty

/-- The rest of a block sequence. -/
def blockItems (handles : List (String × String)) : (fuel : Nat) → Reader (List Nat)
  | 0 => throw .malformed
  | fuel + 1 => do
    if (← peek) = some .blockEntry then
      skip
      let node ← orEmpty handles fuel [.blockEntry, .blockEnd] true false
      return node :: (← blockItems handles fuel)
    else
      expect .blockEnd
      return []

/-- The rest of a sequence that ends with the mapping around it. -/
def indentlessItems (handles : List (String × String)) : (fuel : Nat) → Reader (List Nat)
  | 0 => throw .malformed
  | fuel + 1 => do
    if (← peek) = some .blockEntry then
      skip
      let node ← orEmpty handles fuel (.blockEntry :: blockStops) true false
      return node :: (← indentlessItems handles fuel)
    else return []

/-- The rest of a block mapping. -/
def blockEntries (handles : List (String × String)) :
    (fuel : Nat) → (opening : Bool) → Reader (List (Nat × Nat))
  | 0, _ => throw .malformed
  | fuel + 1, opening => do
    if (← peek) = some (.key opening) then
      skip
      let key ← orEmpty handles fuel blockStops true true
      let value ← valueOrEmpty handles fuel blockStops true
      return (key, value) :: (← blockEntries handles fuel false)
    else
      expect .blockEnd
      return []

/-- The rest of a sequence in brackets. An entry with a colon is a mapping of its own. -/
def flowItems (handles : List (String × String)) :
    (fuel : Nat) → (opening : Bool) → Reader (List Nat)
  | 0, _ => throw .malformed
  | fuel + 1, opening => do
    if (← peek) = some .flowSequenceEnd then
      skip
      return []
    else
      if !opening then expect .flowEntry
      match ← peek with
      | some .flowSequenceEnd =>
        skip
        return []
      | some (.key false) =>
        skip
        let node ← addMapping {} (do
          let key ← orEmpty handles fuel (flowKeyStops .flowSequenceEnd) false false
          let value ← valueOrEmpty handles fuel (flowValueStops .flowSequenceEnd) false
          return [(key, value)])
        return node :: (← flowItems handles fuel false)
      | _ =>
        let node ← node handles fuel false false
        return node :: (← flowItems handles fuel false)

/-- The rest of a mapping in brackets. An entry without a colon is a key. -/
def flowEntries (handles : List (String × String)) :
    (fuel : Nat) → (opening : Bool) → Reader (List (Nat × Nat))
  | 0, _ => throw .malformed
  | fuel + 1, opening => do
    if (← peek) = some .flowMappingEnd then
      skip
      return []
    else
      if !opening then expect .flowEntry
      match ← peek with
      | some .flowMappingEnd =>
        skip
        return []
      | some (.key false) =>
        skip
        let key ← orEmpty handles fuel (flowKeyStops .flowMappingEnd) false false
        let value ← valueOrEmpty handles fuel (flowValueStops .flowMappingEnd) false
        return (key, value) :: (← flowEntries handles fuel false)
      | _ =>
        let key ← node handles fuel false false
        let value ← add Node.empty
        return (key, value) :: (← flowEntries handles fuel false)

end

end Reader

/-! ## Documents -/

/-- The handles that need no directive. -/
def usualHandles : List (String × String) := [("!", "!"), ("!!", standard)]

/-- What the directives in front of a document say: whether there was a version, and the handles. -/
def directivesOf (versioned : Bool) (handles : List (String × String)) :
    List Item → Except Fault (List (String × String) × List Item)
  | .directive (.version major) :: rest =>
    if versioned || major ≠ 1 then .error .malformed else directivesOf true handles rest
  | .directive (.handle handle expansion) :: rest =>
    if (handles.lookup handle).isSome then .error .malformed
    else directivesOf versioned ((handle, expansion) :: handles) rest
  | .directive .other :: rest => directivesOf versioned handles rest
  | items => .ok (handles ++ usualHandles, items)

namespace Reader

/-- Read the directives in front of a document: the handles that apply to it. -/
def directives : Reader (List (String × String)) := do
  let (handles, items) ← liftM (directivesOf false [] (← get).items)
  modify fun reading => { reading with items }
  return handles

/-- Read the rest of the items after a document: ends of documents only. -/
def finish : Reader Unit := do
  modify fun reading => { reading with items := reading.items.dropWhile (· == .documentEnd) }
  match ← peek with
  | none => pure ()
  | some _ => do
    let _ ← directives
    let _ ← peek
    throw .malformed

/-- Read the only document. An empty one, or nothing at all, is an empty node. -/
def document (fuel : Nat) : Reader Nat := do
  match ← peek with
  | none => add Node.empty
  | some (.directive _) | some .documentStart => do
    let handles ← directives
    expect .documentStart
    let root ← match ← peek with
      | none | some (.directive _) | some .documentStart | some .documentEnd => add Node.empty
      | _ => node handles fuel true false
    finish
    return root
  | some _ => do
    let root ← node usualHandles fuel true false
    finish
    return root

end Reader

/-- Enough fuel to read a node from items: between two items at most four readers start. -/
def fuelFor (items : List Item) : Nat :=
  4 * items.length + 8

/-- The nodes of the only document, and its root. -/
def Graph.ofItems (items : Items) : Except Fault (Nat × Graph) := do
  let (root, reading) ← (Reader.document (fuelFor items.items)).run
    { items := items.items, fault := items.fault }
  return (root, reading.graph)

end HttpSuite.Yaml
