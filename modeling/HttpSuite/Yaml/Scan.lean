import HttpSuite.Number.Numeral
import HttpSuite.Yaml.Item
import HttpSuite.Yaml.Scalar
import HttpSuite.Yaml.Tag

/-!
# From text to items

A document is read item by item. Outside brackets its nesting follows from columns: a stack of columns
holds the blocks that are open, and a line further to the left closes some. Whether a scalar is a key
shows only at the colon after it, so a slot is left in front of everything that may be one. A key ends
on its own line and within 1024 characters.

- `itemsOf`: the items of a document, up to its end or its first fault.
-/

namespace HttpSuite.Yaml

/-- Something that may turn out to be a key. -/
structure PossibleKey where
  /-- The slot in front of it. -/
  slot : Nat
  /-- Whether nothing else but a key may stand there. -/
  required : Bool
  index : Nat
  line : Nat
  column : Nat

/-- The state of reading items. -/
structure Scan where
  cursor : Cursor
  items : Array Item := #[]
  /-- The column of the innermost open block. -/
  indent : Int := -1
  /-- The columns of the blocks around it. -/
  outer : List Int := []
  /-- The number of open brackets. -/
  flow : Nat := 0
  /-- Whether a key may start here. -/
  keyAllowed : Bool := true
  /-- The possible keys, at most one for each number of open brackets. -/
  keys : List (Nat × PossibleKey) := []

/-- The items that could be read. -/
structure Items where
  items : List Item
  /-- What kept the next one from being read; none at the end of the document. -/
  fault : Option Fault

namespace Scan

/-- Add an item. -/
def push (scan : Scan) (item : Item) : Scan :=
  { scan with items := scan.items.push item }

/-- Go on at a later rest of the document. -/
def goTo (scan : Scan) (rest : List Char) : Scan :=
  { scan with cursor := scan.cursor.passTo rest }

/-- Add an item and pass its characters. -/
def pushPassing (scan : Scan) (item : Item) (length : Nat) : Scan :=
  { scan.push item with cursor := scan.cursor.advance length }

/-! ## Indentation -/

/-- Close blocks until the innermost is at a column or to the left of it. -/
def closeBlocks (column indent : Int) (items : Array Item) : List Int → Int × List Int × Array Item
  | [] => (indent, [], items)
  | outer :: rest =>
    if column < indent then closeBlocks column outer (items.push .blockEnd) rest
    else (indent, outer :: rest, items)

/-- Close the blocks to the right of a column; inside brackets columns carry no meaning. -/
def unwind (scan : Scan) (column : Int) : Scan :=
  if 0 < scan.flow then scan
  else
    let (indent, outer, items) := closeBlocks column scan.indent scan.items scan.outer
    { scan with indent, outer, items }

/-- Whether a block at a column is a new one. -/
def opensBlock (scan : Scan) (column : Nat) : Bool :=
  scan.indent < column

/-- Open a block at a column, if it is a new one. -/
def openBlock (scan : Scan) (column : Nat) : Scan :=
  if scan.opensBlock column then
    { scan with indent := column, outer := scan.indent :: scan.outer }
  else scan

/-! ## Possible keys -/

/-- Whether a possible key has come to nothing: it is on another line or too far back. -/
def isStale (scan : Scan) (key : PossibleKey) : Bool :=
  key.line != scan.cursor.line || 1024 < scan.cursor.index - key.index

/-- Forget the possible keys that have come to nothing; it is a fault if one was required. -/
def dropStale (scan : Scan) : Except Fault Scan :=
  if scan.keys.any fun (_, key) => scan.isStale key && key.required then .error .malformed
  else .ok { scan with keys := scan.keys.filter fun (_, key) => !scan.isStale key }

/-- Forget the possible key between the innermost brackets; it is a fault if it was required. -/
def dropKey (scan : Scan) : Except Fault Scan :=
  match scan.keys.lookup scan.flow with
  | some key =>
    if key.required then .error .malformed
    else .ok { scan with keys := scan.keys.filter (·.1 != scan.flow) }
  | none => .ok scan

/-- Note that a key may start here. -/
def noteKey (scan : Scan) : Except Fault Scan := do
  if scan.keyAllowed then
    let scan ← scan.dropKey
    let cursor := scan.cursor
    let key : PossibleKey :=
      { slot := scan.items.size, required := scan.flow == 0 && scan.indent == cursor.column,
        index := cursor.index, line := cursor.line, column := cursor.column }
    return { scan.push .slot with keys := (scan.flow, key) :: scan.keys }
  else return scan

/-! ## Between items -/

/-- Pass blanks, comments and line ends; the result also tells whether a line ended. -/
def passBlanks (comment : Bool) : List Char → List Char × Bool
  | [] => ([], false)
  | c :: rest =>
    if isBreak c then ((passBlanks false rest).1, true)
    else if comment then passBlanks true rest
    else if c == ' ' then passBlanks false rest
    else if c == '#' then passBlanks true rest
    else (c :: rest, false)

/-- Go to the next item: pass what stands before it and close the blocks that end there. -/
def settle (scan : Scan) : Except Fault Scan := do
  let start := if scan.cursor.index == 0 && scan.cursor.peek == byteOrderMark then
    scan.cursor.rest.drop 1 else scan.cursor.rest
  let (rest, broken) := passBlanks false start
  let scan := { scan.goTo rest with keyAllowed := scan.keyAllowed || (broken && scan.flow == 0) }
  let scan ← scan.dropStale
  return scan.unwind scan.cursor.column

/-- Close everything at the end of a document. -/
def closeAll (scan : Scan) : Except Fault Scan := do
  let scan ← (scan.unwind (-1)).dropKey
  return { scan with keyAllowed := false }

/-! ## Items -/

/-- A document marker. -/
def marker (scan : Scan) (item : Item) : Except Fault Scan := do
  return (← scan.closeAll).pushPassing item 3

/-- A number of a version directive and the rest. -/
def versionNumber (cs : List Char) : Except Fault (Nat × List Char) :=
  let digits := cs.takeWhile Char.isDigit
  if digits.isEmpty then .error .malformed
  else if Number.maxDigits < digits.length then .error (.tooManyDigits digits.length)
  else .ok (Number.digitsValue digits, cs.drop digits.length)

/-- The two numbers of a version directive; the first is the result. -/
def version (cs : List Char) : Except Fault (Directive × List Char) := do
  let (major, rest) ← versionNumber (cs.dropWhile (· == ' '))
  if first rest != '.' then .error .malformed
  else
    let (_, rest) ← versionNumber (rest.drop 1)
    if first rest == ' ' || isLineEnd (first rest) then .ok (.version major, rest)
    else .error .malformed

/-- The handle and the expansion of a tag directive. -/
def handleDirective (cs : List Char) : Option (Directive × List Char) := do
  let (handle, rest) ← tagHandle (cs.dropWhile (· == ' '))
  if first rest != ' ' then none
  else
    let (expansion, rest) ← tagSuffix (rest.dropWhile (· == ' '))
    if first rest == ' ' || isLineEnd (first rest) then
      some (.handle handle expansion, rest)
    else none

/-- A directive with its line. -/
def directive (scan : Scan) : Except Fault Scan := do
  let scan ← scan.closeAll
  let cs := scan.cursor.rest.drop 1
  let name := cs.takeWhile isNameChar
  let rest := cs.drop name.length
  if name.isEmpty || !(first rest == ' ' || isLineEnd (first rest)) then .error .malformed
  else
    let (directive, rest) ← match String.ofList name with
      | "YAML" => version rest
      | "TAG" => orMalformed (handleDirective rest)
      | _ => .ok (.other, rest.dropWhile (!isBreak ·))
    let rest ← orMalformed (passLine rest)
    return (scan.push (.directive directive)).goTo rest

/-- An opening bracket. -/
def openBracket (scan : Scan) (item : Item) : Except Fault Scan := do
  let scan ← scan.noteKey
  return { scan.pushPassing item 1 with flow := scan.flow + 1, keyAllowed := true }

/-- A closing bracket. -/
def closeBracket (scan : Scan) (item : Item) : Except Fault Scan := do
  let scan ← scan.dropKey
  if scan.flow = 0 then .error .malformed
  else return { scan.pushPassing item 1 with flow := scan.flow - 1, keyAllowed := false }

/-- A comma between brackets. -/
def comma (scan : Scan) : Except Fault Scan := do
  let scan ← scan.dropKey
  return { scan.pushPassing .flowEntry 1 with keyAllowed := true }

/-- The dash of a sequence. -/
def dash (scan : Scan) : Except Fault Scan := do
  if scan.flow == 0 && !scan.keyAllowed then .error .malformed
  else
    let opens := scan.flow == 0 && scan.opensBlock scan.cursor.column
    let scan := if opens then (scan.openBlock scan.cursor.column).push .blockSequenceStart else scan
    let scan ← scan.dropKey
    return { scan.pushPassing .blockEntry 1 with keyAllowed := true }

/-- The question mark of an explicit key. -/
def questionMark (scan : Scan) : Except Fault Scan := do
  if scan.flow == 0 && !scan.keyAllowed then .error .malformed
  else
    let opens := scan.flow == 0 && scan.opensBlock scan.cursor.column
    let scan := if opens then scan.openBlock scan.cursor.column else scan
    let scan ← scan.dropKey
    return { scan.pushPassing (.key opens) 1 with keyAllowed := scan.flow == 0 }

/-- The colon before a value. It makes a key of what was noted as a possible one; otherwise it belongs
to an explicit key and cannot start a mapping. -/
def colon (scan : Scan) : Except Fault Scan := do
  match scan.keys.lookup scan.flow with
  | some key =>
    let opens := scan.flow == 0 && scan.opensBlock key.column
    let scan := if opens then scan.openBlock key.column else scan
    let items := scan.items.setIfInBounds key.slot (.key opens)
    let scan := { scan with items, keys := scan.keys.filter (·.1 != scan.flow), keyAllowed := false }
    return scan.pushPassing .value 1
  | none =>
    if scan.flow == 0 && (!scan.keyAllowed || scan.opensBlock scan.cursor.column) then
      .error .malformed
    else return { scan.pushPassing .value 1 with keyAllowed := scan.flow == 0 }

/-- The name of an anchor or an alias. -/
def named (scan : Scan) (item : String → Item) : Except Fault Scan := do
  let scan ← scan.noteKey
  let cs := scan.cursor.rest.drop 1
  let name := cs.takeWhile isNameChar
  let rest := cs.drop name.length
  if name.isEmpty || !(isGap (first rest) || "?:,]\x7d%@`".toList.contains (first rest)) then
    .error .malformed
  else return { (scan.push (item (String.ofList name))).goTo rest with keyAllowed := false }

/-- A tag. -/
def tag (scan : Scan) : Except Fault Scan := do
  let scan ← scan.noteKey
  let ((handle, suffix), rest) ← orMalformed (readTag scan.cursor.rest)
  return { (scan.push (.tag handle suffix)).goTo rest with keyAllowed := false }

/-- Add a scalar. -/
def pushScalar (scan : Scan) (text : List Char) (plain : Bool) : Scan :=
  scan.push (.scalar (text.map Char.toNat) plain)

/-- A block scalar. -/
def blockScalar (scan : Scan) (folded : Bool) : Except Fault Scan := do
  let scan ← scan.dropKey
  let (text, rest) ← orMalformed (block folded scan.indent (scan.cursor.rest.drop 1))
  return { (scan.pushScalar text false).goTo rest with keyAllowed := true }

/-- A quoted scalar. -/
def quotedScalar (scan : Scan) (double : Bool) : Except Fault Scan := do
  let scan ← scan.noteKey
  let (points, rest) ← quoted double (scan.cursor.rest.drop 1)
  return { (scan.push (.scalar points false)).goTo rest with keyAllowed := false }

/-- A plain scalar; a key may follow if a line has ended. -/
def plainScalar (scan : Scan) : Except Fault Scan := do
  let scan ← scan.noteKey
  let (text, cursor, broken) := plain (0 < scan.flow) (scan.indent + 1) scan.cursor
  return { scan.pushScalar text true with cursor, keyAllowed := broken }

/-- Whether a plain scalar starts here. -/
def startsPlain (scan : Scan) : Bool :=
  let c := scan.cursor.peek
  !(isGap c || "-?:,[]\x7b\x7d#&*!|>'\"%@`".toList.contains c) ||
    (!isGap (scan.cursor.peek 1) && (c == '-' || (scan.flow == 0 && (c == '?' || c == ':'))))

/-- Read the item that starts here. -/
def item (scan : Scan) : Except Fault Scan :=
  let cursor := scan.cursor
  let c := cursor.peek
  let gapAfter := isGap (cursor.peek 1)
  let inFlow := 0 < scan.flow
  if c == '%' && cursor.column == 0 then scan.directive
  else if cursor.column == 0 && startsWithMarker '-' cursor.rest then scan.marker .documentStart
  else if cursor.column == 0 && startsWithMarker '.' cursor.rest then scan.marker .documentEnd
  else if c == '[' then scan.openBracket .flowSequenceStart
  else if c == '{' then scan.openBracket .flowMappingStart
  else if c == ']' then scan.closeBracket .flowSequenceEnd
  else if c == '}' then scan.closeBracket .flowMappingEnd
  else if c == ',' then scan.comma
  else if c == '-' && gapAfter then scan.dash
  else if c == '?' && (inFlow || gapAfter) then scan.questionMark
  else if c == ':' && (inFlow || gapAfter) then scan.colon
  else if c == '*' then scan.named .alias
  else if c == '&' then scan.named .anchor
  else if c == '!' then scan.tag
  else if c == '|' && !inFlow then scan.blockScalar false
  else if c == '>' && !inFlow then scan.blockScalar true
  else if c == '\'' then scan.quotedScalar false
  else if c == '"' then scan.quotedScalar true
  else if scan.startsPlain then scan.plainScalar
  else .error .malformed

/-- The items that are settled: those in front of everything that may still turn out to be a key. -/
def settled (scan : Scan) : List Item :=
  let live := scan.keys.filter fun (_, key) => !scan.isStale key
  let bound := live.foldl (fun bound (_, key) => min bound key.slot) scan.items.size
  (scan.items.toList.take bound).filter (· != .slot)

/-- Read all items. Every item takes at least one character. A text that is not complete has no end, so
that reaching it is a fault. -/
def run (complete : Bool) (scan : Scan) : Items :=
  match scan.settle with
  | .error fault => ⟨scan.settled, some fault⟩
  | .ok ready =>
    if ready.cursor.rest.isEmpty then
      if complete then
        match ready.closeAll with
        | .error fault => ⟨scan.settled, some fault⟩
        | .ok done => ⟨done.items.toList.filter (· != .slot), none⟩
      else ⟨scan.settled, some .unfinished⟩
    else
      match ready.item with
      | .error fault => ⟨scan.settled, some fault⟩
      | .ok next =>
        if !complete && next.cursor.rest.isEmpty then ⟨scan.settled, some .unfinished⟩
        else if _h : next.cursor.rest.length < scan.cursor.rest.length then next.run complete
        else ⟨scan.settled, some .malformed⟩
termination_by scan.cursor.rest.length
decreasing_by exact _h

end Scan

/-- The items of a document with unified line ends, of which all or the first part is given. -/
def itemsOf (complete : Bool) (cs : List Char) : Items :=
  Scan.run complete { cursor := { rest := cs } }

end HttpSuite.Yaml
