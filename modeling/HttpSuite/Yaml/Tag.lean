import HttpSuite.Text.Hex
import HttpSuite.Text.Utf8
import HttpSuite.Yaml.Cursor

/-!
# Tags

A tag says what a node is. It is written in full or with a handle that stands for the start of it.
-/

namespace HttpSuite.Yaml

/-- The kinds of nodes that have a meaning. -/
inductive Tag
  | null
  | bool
  | int
  | float
  | time
  | binary
  | text
  | sequence
  | mapping
  | set
  | orderedMapping
  | pairs
  /-- A key whose value is merged into its mapping. -/
  | merge
  /-- A key for the default value. -/
  | default
  | unknown
  deriving DecidableEq, Repr

/-- The start of the tags that have a meaning. -/
def standard : String := "tag:yaml.org,2002:"

/-- The names of the tags after that start. -/
def tagNames : List (String × Tag) :=
  [("null", .null), ("bool", .bool), ("int", .int), ("float", .float), ("timestamp", .time),
    ("binary", .binary), ("str", .text), ("seq", .sequence), ("map", .mapping), ("set", .set),
    ("omap", .orderedMapping), ("pairs", .pairs), ("merge", .merge), ("value", .default)]

/-- The tag of a given text. -/
def Tag.ofText (text : String) : Tag :=
  match tagNames.find? fun (name, _) => standard ++ name == text with
  | some (_, tag) => tag
  | none => .unknown

/-- Characters of a tag. -/
def isTagChar (c : Char) : Bool :=
  c.isAlphanum || "-;/?:@&=+$,_.!~*'()[]%".toList.contains c

/-- Decode the escaped bytes of a tag; bytes that stand together form characters. -/
def unescapeTag : List UInt8 → List Char → Option (List Char)
  | bytes, [] => ((Text.decodeUtf8 bytes).map String.toList).toOption
  | bytes, '%' :: a :: b :: rest => do
    let high ← Text.hexValue? a
    let low ← Text.hexValue? b
    unescapeTag (bytes ++ [(16 * high + low).toUInt8]) rest
  | bytes, c :: rest => do
    if c == '%' then none
    else
      let before ← ((Text.decodeUtf8 bytes).map String.toList).toOption
      return before ++ c :: (← unescapeTag [] rest)

/-- Read the characters of a tag, at least one. -/
def tagSuffix (cs : List Char) : Option (String × List Char) := do
  let taken := cs.takeWhile isTagChar
  if taken.isEmpty then none
  else return (String.ofList (← unescapeTag [] taken), cs.drop taken.length)

/-- Read a handle: an exclamation mark, and a name with another one unless a blank follows. -/
def tagHandle : List Char → Option (String × List Char)
  | '!' :: rest =>
    if first rest == ' ' then some ("!", rest)
    else
      let name := rest.takeWhile isNameChar
      let after := rest.drop name.length
      if first after == '!' then some (String.ofList ("!".toList ++ name ++ "!".toList), after.drop 1) else none
  | _ => none

/-- Read a tag: its handle, the part after it, and the rest. -/
def readTag (cs : List Char) : Option ((Option String × String) × List Char) := do
  let next := first (cs.drop 1)
  let (tag, rest) ←
    if next == '<' then do
      let (suffix, rest) ← tagSuffix (cs.drop 2)
      if first rest == '>' then some ((none, suffix), rest.drop 1) else none
    else if isGap next then some ((none, "!"), cs.drop 1)
    else if ((cs.drop 1).takeWhile fun c => c != ' ' && !isLineEnd c).contains '!' then do
      let (handle, rest) ← tagHandle cs
      let (suffix, rest) ← tagSuffix rest
      some ((some handle, suffix), rest)
    else do
      let (suffix, rest) ← tagSuffix (cs.drop 1)
      some ((some "!", suffix), rest)
  if first rest == ' ' || isLineEnd (first rest) then some (tag, rest) else none

end HttpSuite.Yaml
