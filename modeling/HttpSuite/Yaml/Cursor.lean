/-!
# Positions in a document

A cursor is the rest of a document together with where that rest starts. Lines and columns decide how
a document is nested, so they are counted with every character that is passed.
-/

namespace HttpSuite.Yaml

/-- Stands for the end of a document, in which it cannot occur. -/
def endMark : Char := '\x00'

/-- Characters that end a line. -/
def isBreak (c : Char) : Bool :=
  c == '\n' || c == '\x85' || c == '\u2028' || c == '\u2029'

/-- A line end or the end of the document. -/
def isLineEnd (c : Char) : Bool :=
  c == endMark || isBreak c

/-- What ends a word: a blank, a line end or the end of the document. -/
def isGap (c : Char) : Bool :=
  c == ' ' || c == '\t' || isLineEnd c

/-- The character that a line end denotes. -/
def breakChar (c : Char) : Char :=
  if c == '\x85' then '\n' else c

/-- Characters of the names of anchors and directives. -/
def isNameChar (c : Char) : Bool :=
  c.isAlphanum || c == '-' || c == '_'

/-- Characters that may occur in a document. -/
def isPrintable (c : Char) : Bool :=
  let n := c.toNat
  n == 0x09 || n == 0x0a || n == 0x0d || (0x20 ≤ n && n ≤ 0x7e) || n == 0x85 ||
    (0xa0 ≤ n && n ≤ 0xd7ff) || (0xe000 ≤ n && n ≤ 0xfffd) || 0x10000 ≤ n

/-- The mark that may stand at the start of a document; it takes no column. -/
def byteOrderMark : Char := '\ufeff'

/-- The first character of a text, or the mark of the end. -/
def first (cs : List Char) : Char :=
  cs.headD endMark

/-- Whether a document marker stands at the start of a text. -/
def startsWithMarker (marker : Char) : List Char → Bool
  | a :: b :: c :: rest => a == marker && b == marker && c == marker && isGap (first rest)
  | _ => false

/-- Whether a marker of either kind stands at the start of a text. -/
def startsWithSeparator (cs : List Char) : Bool :=
  startsWithMarker '-' cs || startsWithMarker '.' cs

/-- The rest of a document and its place. -/
structure Cursor where
  rest : List Char
  index : Nat := 0
  line : Nat := 0
  column : Nat := 0
  deriving Repr

namespace Cursor

/-- The next character, or the one after it, and so on. -/
def peek (cursor : Cursor) (ahead : Nat := 0) : Char :=
  cursor.rest.getD ahead endMark

/-- Pass a number of characters. -/
def advance : Nat → Cursor → Cursor
  | 0, cursor => cursor
  | n + 1, cursor =>
    match cursor.rest with
    | [] => cursor
    | c :: rest =>
      let index := cursor.index + 1
      if isBreak c then advance n { rest, index, line := cursor.line + 1, column := 0 }
      else
        let column := if c == byteOrderMark then cursor.column else cursor.column + 1
        advance n { cursor with rest, index, column }

/-- Pass everything up to a later rest of the document. -/
def passTo (cursor : Cursor) (rest : List Char) : Cursor :=
  cursor.advance (cursor.rest.length - rest.length)

end Cursor

end HttpSuite.Yaml
