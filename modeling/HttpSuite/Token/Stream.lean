import HttpSuite.Text.Blank
import HttpSuite.Token

/-!
# Token streams

Lexing cuts a text into pieces from left to right, each the longest that fits: blanks and comments
are skipped, the other pieces are tokens. The result is a `Stream`: the tokens before the end, and
how the text ends, either with the end of input or with a fault at the first place where no piece
fits.

- `Piece.first`: the piece at the front of a text, with the rest.
- `Stream.ofText`: the stream of a text.
- `Cursor`: a reader that hands a stream out once, forward only.
-/

namespace HttpSuite

/-- The blanks between tokens. -/
def isLayout (c : Char) : Bool :=
  c == ' ' || c == '\t' || c == '\x0c' || c == '\r' || c == '\n'

/-- What a word may start with. -/
def isWordStart (c : Char) : Bool :=
  c.isAlpha || c == '_'

/-- What a word may go on with. -/
def isWordPart (c : Char) : Bool :=
  c.isAlphanum || c == '_'

/-- What stands between the quotes of a string. -/
def isStringPart (c : Char) : Bool :=
  c != '"' && c != '\n'

/-- A piece cut off the front of a text. -/
structure Piece where
  /-- The token kind, or none for a blank or a comment. -/
  kind : Option Kind
  text : List Char
  rest : List Char

/-- The rest of a non-empty text from its second character on, as a piece of one character. -/
def Piece.single (kind : Option Kind) (c : Char) (rest : List Char) : Piece :=
  ⟨kind, [c], rest⟩

/-- The longest piece at the front of a text; none if nothing fits there. -/
def Piece.first : List Char → Option Piece
  | [] => none
  | c :: cs =>
    if isLayout c then some (.single none c cs)
    else if isWordStart c then
      let word := c :: cs.takeWhile isWordPart
      some ⟨some (Kind.ofWord (String.ofList word)), word, cs.dropWhile isWordPart⟩
    else if c.isDigit then
      some ⟨some .integer, c :: cs.takeWhile Char.isDigit, cs.dropWhile Char.isDigit⟩
    else match c, cs with
      | '{', cs => some (.single (some (.mark .openBrace)) c cs)
      | '}', cs => some (.single (some (.mark .closeBrace)) c cs)
      | ';', cs => some (.single (some (.mark .semicolon)) c cs)
      | '=', cs => some (.single (some (.mark .equals)) c cs)
      | '.', '.' :: cs => some ⟨some (.mark .range), ['.', '.'], cs⟩
      | '/', '/' :: cs =>
        some ⟨none, '/' :: '/' :: cs.takeWhile (· != '\n'), cs.dropWhile (· != '\n')⟩
      | '"', cs =>
        match cs.dropWhile isStringPart with
        | '"' :: rest => some ⟨some .string, '"' :: cs.takeWhile isStringPart ++ ['"'], rest⟩
        | _ => none
      | _, _ => none

/-- A piece and the rest make up the text. -/
theorem Piece.first_append {cs : List Char} {piece : Piece} (h : Piece.first cs = some piece) :
    piece.text ++ piece.rest = cs := by
  unfold Piece.first at h
  split at h
  · simp at h
  · rename_i c cs
    split at h
    · obtain rfl := Option.some.inj h; rfl
    · split at h
      · obtain rfl := Option.some.inj h; simp
      · split at h
        · obtain rfl := Option.some.inj h; simp
        · split at h
          · obtain rfl := Option.some.inj h; rfl
          · obtain rfl := Option.some.inj h; rfl
          · obtain rfl := Option.some.inj h; rfl
          · obtain rfl := Option.some.inj h; rfl
          · obtain rfl := Option.some.inj h; rfl
          · obtain rfl := Option.some.inj h; simp
          · split at h
            · rename_i rest hrest
              obtain rfl := Option.some.inj h
              simp only [List.cons_append, List.append_assoc, List.nil_append, List.cons.injEq,
                true_and]
              rw [← hrest, List.takeWhile_append_dropWhile]
            · simp at h
          · simp at h

/-- No piece is empty. -/
theorem Piece.first_text_ne_nil {cs : List Char} {piece : Piece}
    (h : Piece.first cs = some piece) : piece.text ≠ [] := by
  unfold Piece.first at h
  split at h
  · simp at h
  · repeat' split at h
    all_goals first
      | (obtain rfl := Option.some.inj h; simp [Piece.single])
      | simp at h

theorem Piece.first_rest_length {cs : List Char} {piece : Piece}
    (h : Piece.first cs = some piece) : piece.rest.length < cs.length := by
  have split := congrArg List.length (Piece.first_append h)
  have pos := List.length_pos_iff.2 (Piece.first_text_ne_nil h)
  rw [List.length_append] at split
  omega

/-- Why lexing stops before the end. -/
inductive LexReason
  | unexpectedCharacter
  | unterminatedString
  deriving DecidableEq, Repr

/-- The wording of a reason. -/
def LexReason.text : LexReason → String
  | .unexpectedCharacter => "unexpected character"
  | .unterminatedString => "unterminated string literal"

/-- The place where no piece fits, and the text reported for it. -/
structure LexFault where
  position : Position
  offending : String
  reason : LexReason
  deriving DecidableEq, Repr

/-- The fault of a text at whose front nothing fits: an open string is reported with the rest of its
line, without carriage returns at its end, and anything else with its first character. -/
def LexFault.ofText (position : Position) (cs : List Char) : LexFault :=
  let line := Text.trimRight (· == '\r') (cs.takeWhile (· != '\n'))
  if line.head? = some '"' then ⟨position, String.ofList line, .unterminatedString⟩
  else ⟨position, String.ofList (line.take 1), .unexpectedCharacter⟩

/-- How the tokens of a text end. -/
inductive Ending
  | eof (position : Position)
  | fault (fault : LexFault)
  deriving DecidableEq, Repr

/-- The tokens of a text before its end, and how it ends. -/
structure Stream where
  tokens : List Token
  ending : Ending
  deriving DecidableEq, Repr

namespace Stream

/-- Put a token in front, if there is one. -/
def push (token : Option Token) (stream : Stream) : Stream :=
  ⟨token.toList ++ stream.tokens, stream.ending⟩

/-- The stream of a text whose first character stands at a given place. -/
def scan (position : Position) (cs : List Char) : Stream :=
  if cs.isEmpty then ⟨[], .eof position⟩
  else match _h : Piece.first cs with
    | none => ⟨[], .fault (.ofText position cs)⟩
    | some piece =>
      (scan (position.after piece.text) piece.rest).push
        (piece.kind.map fun kind => ⟨kind, String.ofList piece.text, position⟩)
termination_by cs.length
decreasing_by exact Piece.first_rest_length _h

/-- The stream of a text. -/
def ofText (source : String) : Stream :=
  scan .start source.toList

end Stream

/-- The token that closes a stream. -/
def Token.endOfInput (position : Position) : Token :=
  ⟨.eof, "", position⟩

/-- What is left of a stream: the tokens still to come, and the ending until it was delivered. -/
structure Cursor where
  pending : List Token
  ending : Option Ending
  deriving DecidableEq, Repr

namespace Cursor

/-- A cursor before the first token of a text. -/
def ofText (source : String) : Cursor :=
  let stream := Stream.ofText source
  ⟨stream.tokens, some stream.ending⟩

/-- What one step of a cursor delivers. -/
inductive Delivery
  | token (token : Token)
  | fault (fault : LexFault)
  | exhausted

/-- The next token, the ending, or nothing once the ending was delivered. -/
def next (cursor : Cursor) : Delivery × Cursor :=
  match cursor.pending, cursor.ending with
  | token :: rest, ending => (.token token, ⟨rest, ending⟩)
  | [], some (.eof position) => (.token (.endOfInput position), ⟨[], none⟩)
  | [], some (.fault fault) => (.fault fault, ⟨[], none⟩)
  | [], none => (.exhausted, cursor)

/-- All that is left, or the fault that the rest runs into. -/
def rest (cursor : Cursor) : Except LexFault (List Token) × Cursor :=
  match cursor.ending with
  | some (.eof position) => (.ok (cursor.pending ++ [.endOfInput position]), ⟨[], none⟩)
  | some (.fault fault) => (.error fault, ⟨[], none⟩)
  | none => (.ok cursor.pending, ⟨[], none⟩)

end Cursor

/-- All tokens of a text with the one that closes it, or the first fault. -/
def tokenize (source : String) : Except LexFault (List Token) :=
  (Cursor.ofText source).rest.1

end HttpSuite
