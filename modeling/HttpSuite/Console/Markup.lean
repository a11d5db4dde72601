import HttpSuite.Console.Emoji
import HttpSuite.Console.Markup.Literal
import HttpSuite.Console.Markup.Style

/-!
# Markup

Text on the console may hold tags in brackets. A tag is opened by its name and closed by a slash and
the name, or by a slash alone; what is shown is the text without them. A backslash in front of a tag
makes plain text of it. A name between colons is shown as an emoji.

- `escape`: markup that shows a text as it is, emoji codes aside.
- `shownText`: the text that markup shows.
-/

namespace HttpSuite.Markup

/-- Characters that a tag starts with. -/
def startsTag (c : Char) : Bool :=
  ('a' ≤ c && c ≤ 'z') || c == '#' || c == '/' || c == '@'

/-- Some backslashes. -/
def backslashes (n : Nat) : List Char :=
  List.replicate n '\\'

/-! ## Escaping -/

/-- Whether a bracket closes before another one opens. -/
def closesTag : List Char → Bool
  | [] => false
  | c :: rest => c == ']' || (c != '[' && closesTag rest)

/-- Put a backslash in front of every tag, and double those that are there. Backslashes that were
just read are pending. -/
def escapeFrom (inTag : Bool) (pending : Nat) : List Char → List Char
  | [] => backslashes pending
  | c :: rest =>
    if inTag then c :: escapeFrom (c != ']') 0 rest
    else if c == '\\' then escapeFrom false (pending + 1) rest
    else if c == '[' && startsTag (rest.headD ']') && closesTag rest then
      backslashes (2 * pending + 1) ++ c :: escapeFrom true 0 rest
    else backslashes pending ++ c :: escapeFrom false 0 rest

/-- Markup for a text. A single backslash at the end is doubled, because a tag may follow. -/
def escape (text : String) : String :=
  let cs := escapeFrom false 0 text.toList
  let atEnd := (cs.reverse.takeWhile (· == '\\')).length
  String.ofList (if atEnd = 1 then cs ++ ['\\'] else cs)

/-! ## Showing -/

/-- A piece of markup. -/
inductive Piece
  | text (cs : List Char)
  | tag (cs : List Char)

/-- Plain text in which a bracket is written with a backslash. -/
def plainText : List Char → List Char
  | [] => []
  | '\\' :: '[' :: rest => '[' :: plainText rest
  | c :: rest => c :: plainText rest

/-- Where the reader of markup is. -/
inductive Position
  /-- In plain text, after some backslashes; the text is kept in reverse. -/
  | plain (text : List Char) (pending : Nat)
  | tag (text : List Char)
  /-- In a tag that is shown as text. -/
  | escaped (text : List Char)

/-- The pieces of markup. -/
def pieces : Position → List Char → List Piece
  | .plain text pending, [] => [.text (plainText (backslashes pending ++ text).reverse)]
  | .plain text pending, c :: rest =>
    if c == '\\' then pieces (.plain text (pending + 1)) rest
    else if c == '[' && startsTag (rest.headD ']') && closesTag rest then
      let next := if pending % 2 = 1 then Position.escaped [c] else .tag []
      .text (plainText text.reverse) :: .text (backslashes (pending / 2)) :: pieces next rest
    else pieces (.plain (c :: (backslashes pending ++ text)) 0) rest
  | .tag _, [] | .escaped _, [] => []
  | .tag text, c :: rest =>
    if c == ']' then .tag text.reverse :: pieces (.plain [] 0) rest else pieces (.tag (c :: text)) rest
  | .escaped text, c :: rest =>
    if c == ']' then .text (c :: text).reverse :: pieces (.plain [] 0) rest
    else pieces (.escaped (c :: text)) rest

/-- Why markup cannot be shown. -/
inductive Fault
  /-- A tag is closed that is not open, or the parameters of one that is closed cannot be read. -/
  | tag
  /-- A colour is given by numbers, one of which is none. -/
  | colour
  deriving DecidableEq, Repr

/-- An open tag: its name, its parameters if it has any, and how many characters were shown before. -/
structure OpenTag where
  name : String
  parameters? : Option (List Char)
  start : Nat
  deriving DecidableEq, Repr

/-- A style for some characters of what is shown: from the first one to the one before the last. -/
structure Span where
  first : Nat
  last : Nat
  style : List Char
  deriving DecidableEq, Repr

/-- The name of a tag, without its parameters. -/
def tagName (cs : List Char) : List Char :=
  cs.takeWhile (· != '=')

/-- The parameters of a tag, which follow an equals sign. -/
def tagParameters? (cs : List Char) : Option (List Char) :=
  (cs.dropWhile (· != '=')).tail?

/-- The normal form of a tag's name. -/
def normalName (cs : List Char) : Except Fault String :=
  (Style.nameOf cs).mapError fun _ => .colour

/-- Take the innermost open tag of a name out of the others. -/
def takeNamed (name : String) : List OpenTag → Option (OpenTag × List OpenTag)
  | [] => none
  | tag :: rest =>
    if tag.name == name then some (tag, rest)
    else (takeNamed name rest).map fun (found, rest) => (found, tag :: rest)

namespace OpenTag

/-- Whether a tag stands for an action, and not for a style. -/
def isAction (tag : OpenTag) : Bool :=
  tag.name.toList.head? = some '@'

/-- Whether an open tag can be closed: the parameters of an action, if there are any, are read then. -/
def isReadable (tag : OpenTag) : Bool :=
  let parameters := tag.parameters?.getD []
  !tag.isAction || parameters.isEmpty || hasParameters parameters

/-- The style of a tag: its name and its parameters. -/
def style (tag : OpenTag) : List Char :=
  tag.name.toList ++ (tag.parameters?.map (' ' :: ·)).getD []

/-- What a tag sets when so many characters have been shown. -/
def spanTo (tag : OpenTag) (length : Nat) : Span :=
  { first := tag.start, last := length, style := tag.style }

end OpenTag

/-- The open tags after one more tag, and the one that it closes, when so many characters have been
shown. -/
def afterTag (length : Nat) (openTags : List OpenTag) (cs : List Char) :
    Except Fault (List OpenTag × Option OpenTag) := do
  match tagName cs with
  | '/' :: name =>
    let closed ←
      if (Text.trim Text.isBlank name).isEmpty then
        pure (openTags.head?.map fun tag => (tag, openTags.drop 1))
      else do
        let name ← normalName name
        pure (takeNamed name openTags)
    match closed with
    | some (tag, rest) => if tag.isReadable then .ok (rest, some tag) else .error .tag
    | none => .error .tag
  | name => return (⟨← normalName name, tagParameters? cs, length⟩ :: openTags, none)

/-- Characters that a console takes for commands and does not show. -/
def isCommand (c : Char) : Bool :=
  [0x07, 0x08, 0x0b, 0x0c, 0x0d].contains c.toNat

/-- A text with styles. -/
structure Shown where
  text : List Char := []
  spans : List Span := []
  deriving DecidableEq, Repr

/-- The text of pieces, with emoji in the place of their names, when so many characters have been
shown. -/
def shownPieces (length : Nat) (openTags : List OpenTag) : List Piece → Except Fault Shown
  | [] => .ok { spans := openTags.map (·.spanTo length) }
  | .text cs :: rest => do
    let text := (Emoji.replace cs).filter (!isCommand ·)
    let shown ← shownPieces (length + text.length) openTags rest
    return { shown with text := text ++ shown.text }
  | .tag cs :: rest => do
    let (openTags, closed) ← afterTag length openTags cs
    let shown ← shownPieces length openTags rest
    let spans := (closed.filter (!·.isAction)).toList.map (·.spanTo length)
    return { shown with spans := spans ++ shown.spans }

/-- Whether a style is looked up: in a text of several lines, only if it is for a character in one. -/
def Span.isUsed (text : List Char) (span : Span) : Bool :=
  !text.contains '\n' || ((text.take span.last).drop span.first).any (· != '\n')

/-- The text that markup shows. A style that is unknown is passed over, but the numbers of a colour
have to be numbers. -/
def shownText (markup : String) : Except Fault String := do
  let shown ← shownPieces 0 [] (pieces (.plain [] 0) markup.toList)
  let isFaulty (span : Span) : Bool := Style.ofWords (words span.style) matches .error .notNumber
  if shown.spans.any fun span => isFaulty span && span.isUsed shown.text then .error .colour
  else return String.ofList shown.text

end HttpSuite.Markup
