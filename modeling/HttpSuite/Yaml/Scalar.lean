import HttpSuite.Text.Hex
import HttpSuite.Yaml.Cursor
import HttpSuite.Yaml.Fault

/-!
# Scalars

The four ways to write a scalar, each with its rules for line breaks. A single break between two lines
of a plain or quoted scalar becomes a blank, and of several breaks in a row the first one is dropped.

- `plain`: without quotes.
- `quoted`: in single or double quotes.
- `block`: on indented lines of its own, kept or folded.
-/

namespace HttpSuite.Yaml

/-- What a line break and the blank lines after it stand for. -/
def foldedBreaks (first : Char) (more : List Char) : List Char :=
  if first != '\n' then first :: more else if more.isEmpty then [' '] else more

/-! ## Plain scalars -/

/-- The longest part of a plain scalar without blanks. -/
def plainChunk (flow : Bool) : List Char → List Char
  | [] => []
  | c :: rest =>
    let next := first rest
    if isGap c || (c == ':' && (isGap next || (flow && [',', '[', ']', '{', '}'].contains next))) ||
        (flow && [',', '?', '[', ']', '{', '}'].contains c) then []
    else c :: plainChunk flow rest

/-- The line breaks up to the next character that is neither a blank nor a break, and the rest; none if
a document marker comes first. -/
def blankLines : List Char → Option (List Char) × List Char
  | [] => (some [], [])
  | c :: rest =>
    if c == ' ' then blankLines rest
    else if isBreak c then
      if startsWithSeparator rest then (none, rest)
      else
        let (more, rest) := blankLines rest
        (more.map (breakChar c :: ·), rest)
    else (some [], c :: rest)

/-- What stands between two parts of a plain scalar. -/
structure PlainGap where
  /-- What the gap denotes; none if the scalar cannot go on after it. -/
  text : Option (List Char)
  rest : List Char
  /-- Whether a line ended in the gap. -/
  broken : Bool

/-- The gap at the start of a text. -/
def plainGap (cs : List Char) : PlainGap :=
  let blanks := cs.takeWhile (· == ' ')
  let rest := cs.dropWhile (· == ' ')
  if isBreak (first rest) then
    let after := rest.drop 1
    if startsWithSeparator after then ⟨none, after, true⟩
    else
      let (more, rest) := blankLines after
      ⟨more.map (foldedBreaks (breakChar (first (cs.dropWhile (· == ' '))))), rest, true⟩
  else ⟨if blanks.isEmpty then none else some blanks, rest, false⟩

/-- The rest of a plain scalar after a gap: its text, the place after it, and whether a line has just
ended there. -/
def plainFrom (flow : Bool) (indent : Int) (gap : List Char) (broken : Bool) (cursor : Cursor) :
    List Char × Cursor × Bool :=
  let chunk := if cursor.peek == '#' then [] else plainChunk flow cursor.rest
  if chunk.isEmpty then ([], cursor, broken)
  else
    let next := plainGap (cursor.rest.drop chunk.length)
    let after := cursor.passTo next.rest
    match next.text with
    | none => (gap ++ chunk, after, next.broken)
    | some text =>
      if after.peek == '#' || (!flow && after.column < indent) then
        (gap ++ chunk, after, next.broken)
      else if _h : after.rest.length < cursor.rest.length then
        let (more, last, broken) := plainFrom flow indent text next.broken after
        (gap ++ chunk ++ more, last, broken)
      else (gap ++ chunk, after, next.broken)
termination_by cursor.rest.length
decreasing_by exact _h

/-- A plain scalar whose lines are indented by at least `indent`. -/
def plain (flow : Bool) (indent : Int) (cursor : Cursor) : List Char × Cursor × Bool :=
  plainFrom flow indent [] false cursor

/-! ## Quoted scalars -/

/-- What is pending between two characters of a quoted scalar. -/
inductive QuotedGap
  | none
  | blanks (cs : List Char)
  | breaks (first : Char) (more : List Char)
  /-- After an escaped line break, which itself denotes nothing. -/
  | joined (more : List Char)

namespace QuotedGap

/-- What a gap denotes. -/
def text : QuotedGap → List Char
  | .none => []
  | .blanks cs => cs
  | .breaks first more => foldedBreaks first more
  | .joined more => more

/-- The gap after one more blank. -/
def blank (c : Char) : QuotedGap → QuotedGap
  | .none => .blanks [c]
  | .blanks cs => .blanks (cs ++ [c])
  | gap => gap

/-- The gap after one more line break. -/
def lineBreak (c : Char) : QuotedGap → QuotedGap
  | .breaks first more => .breaks first (more ++ [c])
  | .joined more => .joined (more ++ [c])
  | _ => .breaks c []

end QuotedGap

/-- Where the reader of a quoted scalar is. -/
inductive QuotedState
  | text (gap : QuotedGap)
  | escape
  | hex (left value : Nat)

/-- The characters that an escape of one character stands for. -/
def escapes : List (Char × Char) :=
  [('0', '\x00'), ('a', '\x07'), ('b', '\x08'), ('t', '\t'), ('\t', '\t'), ('n', '\n'), ('v', '\x0b'),
    ('f', '\x0c'), ('r', '\r'), ('e', '\x1b'), (' ', ' '), ('"', '"'), ('\\', '\\'), ('/', '/'),
    ('N', '\x85'), ('_', '\xa0'), ('L', '\u2028'), ('P', '\u2029')]

/-- The number of digits after the letter of a numeric escape. -/
def hexLengths : List (Char × Nat) := [('x', 2), ('u', 4), ('U', 8)]

/-- Code points of characters, in reverse, in front of others. -/
def pushPoints (cs : List Char) (done : List Nat) : List Nat :=
  cs.foldl (fun done c => c.toNat :: done) done

/-- Read a scalar in double quotes up to its closing quote. The code points that were read are kept in
reverse; a numeric escape may denote any up to the last one. -/
def doubleQuoted : QuotedState → List Nat → List Char → Except Fault (List Nat × List Char)
  | _, _, [] => .error .unfinished
  | .text gap, done, c :: rest =>
    if c == '"' then .ok ((pushPoints gap.text done).reverse, rest)
    else if c == ' ' || c == '\t' then doubleQuoted (.text (gap.blank c)) done rest
    else if isBreak c then
      if startsWithSeparator rest then .error .malformed
      else doubleQuoted (.text (gap.lineBreak (breakChar c))) done rest
    else if c == '\\' then doubleQuoted .escape (pushPoints gap.text done) rest
    else doubleQuoted (.text .none) (c.toNat :: pushPoints gap.text done) rest
  | .escape, done, c :: rest =>
    match escapes.lookup c, hexLengths.lookup c with
    | some meaning, _ => doubleQuoted (.text .none) (meaning.toNat :: done) rest
    | none, some length => doubleQuoted (.hex length 0) done rest
    | none, none =>
      if isBreak c && !startsWithSeparator rest then doubleQuoted (.text (.joined [])) done rest
      else .error .malformed
  | .hex left value, done, c :: rest =>
    match Text.hexValue? c with
    | none => .error .malformed
    | some digit =>
      let value := 16 * value + digit
      if 1 < left then doubleQuoted (.hex (left - 1) value) done rest
      else if value < 0x110000 then doubleQuoted (.text .none) (value :: done) rest
      else .error (.noCharacter value)

/-- Read a scalar in single quotes up to its closing quote; a quote is written twice. -/
def singleQuoted : QuotedGap → List Nat → List Char → Except Fault (List Nat × List Char)
  | _, _, [] => .error .unfinished
  | gap, done, '\'' :: '\'' :: rest =>
    singleQuoted .none ('\''.toNat :: pushPoints gap.text done) rest
  | gap, done, c :: rest =>
    if c == '\'' then .ok ((pushPoints gap.text done).reverse, rest)
    else if c == ' ' || c == '\t' then singleQuoted (gap.blank c) done rest
    else if isBreak c then
      if startsWithSeparator rest then .error .malformed
      else singleQuoted (gap.lineBreak (breakChar c)) done rest
    else singleQuoted .none (c.toNat :: pushPoints gap.text done) rest

/-- Read a quoted scalar after its opening quote. -/
def quoted (double : Bool) (cs : List Char) : Except Fault (List Nat × List Char) :=
  if double then doubleQuoted (.text .none) [] cs else singleQuoted .none [] cs

/-! ## Block scalars -/

/-- What becomes of the line breaks at the end of a block scalar. -/
inductive Chomping
  | strip
  | clip
  | keep
  deriving DecidableEq

/-- The header of a block scalar. -/
structure BlockHeader where
  chomping : Chomping := .clip
  /-- The indentation of the lines, if it is given. -/
  increment : Option Nat := none

/-- The chomping that a character asks for. -/
def chomping? (c : Char) : Option Chomping :=
  if c == '+' then some .keep else if c == '-' then some .strip else none

/-- An indentation between 1 and 9. -/
def increment? (c : Char) : Option Nat :=
  if '1' ≤ c && c ≤ '9' then some (c.toNat - '0'.toNat) else none

/-- Read the two indicators of a header, in either order. -/
def blockIndicators (cs : List Char) : BlockHeader × List Char :=
  match chomping? (first cs), increment? (first cs) with
  | some chomping, _ =>
    match increment? (first (cs.drop 1)) with
    | some n => (⟨chomping, some n⟩, cs.drop 2)
    | none => (⟨chomping, none⟩, cs.drop 1)
  | none, some n =>
    match chomping? (first (cs.drop 1)) with
    | some chomping => (⟨chomping, some n⟩, cs.drop 2)
    | none => (⟨.clip, some n⟩, cs.drop 1)
  | none, none => ({}, cs)

/-- Pass the rest of a line that holds blanks and a comment at most. -/
def passLine (cs : List Char) : Option (List Char) :=
  let rest := cs.dropWhile (· == ' ')
  let rest := if first rest == '#' then rest.dropWhile (!isBreak ·) else rest
  if isLineEnd (first rest) then some (rest.drop 1) else none

/-- Read the header of a block scalar and the rest of its line. -/
def blockHeader (cs : List Char) : Option (BlockHeader × List Char) :=
  let (header, rest) := blockIndicators cs
  if first rest == ' ' || isLineEnd (first rest) then (passLine rest).map ((header, ·)) else none

/-- The breaks of blank lines, the column reached and the rest. At most `indent` blanks of a line are
passed. -/
def blockBreaks (indent : Nat) : Nat → List Char → List Char × Nat × List Char
  | column, [] => ([], column, [])
  | column, c :: rest =>
    if c == ' ' && column < indent then blockBreaks indent (column + 1) rest
    else if isBreak c then
      let (more, column, rest) := blockBreaks indent 0 rest
      (breakChar c :: more, column, rest)
    else ([], column, c :: rest)

/-- The breaks of blank lines, the greatest column reached, the column of the rest, and the rest. -/
def blockIndentation : Nat → Nat → List Char → List Char × Nat × Nat × List Char
  | column, greatest, [] => ([], greatest, column, [])
  | column, greatest, c :: rest =>
    if c == ' ' then blockIndentation (column + 1) (max greatest (column + 1)) rest
    else if isBreak c then
      let (more, greatest, column, rest) := blockIndentation 0 greatest rest
      (breakChar c :: more, greatest, column, rest)
    else ([], greatest, column, c :: rest)

/-- What stands between two lines of a block scalar: the break itself, or what folding makes of it.
Lines that start with a blank are not folded. -/
def betweenLines (folded indentedBefore indentedAfter : Bool) (lineBreak : Char)
    (breaks : List Char) : List Char :=
  if folded && lineBreak == '\n' && !indentedBefore && !indentedAfter then
    if breaks.isEmpty then [' '] else []
  else [lineBreak]

/-- The lines of a block scalar from one on, and the rest after them. -/
def blockLines (folded : Bool) (chomping : Chomping) (indent : Nat) (cs : List Char) :
    List Char × List Char :=
  let line := cs.takeWhile (!isBreak ·)
  match cs.dropWhile (!isBreak ·) with
  | [] => (line, [])
  | c :: after =>
    let (breaks, column, rest) := blockBreaks indent 0 after
    if column == indent && !rest.isEmpty then
      let isBlank (c : Char) : Bool := c == ' ' || c == '\t'
      let between :=
        betweenLines folded (isBlank (first cs)) (isBlank (first rest)) (breakChar c) breaks
      if _h : rest.length < cs.length then
        let (more, rest) := blockLines folded chomping indent rest
        (line ++ between ++ breaks ++ more, rest)
      else (line, rest)
    else
      let tail := match chomping with
        | .strip => []
        | .clip => [breakChar c]
        | .keep => breakChar c :: breaks
      (line ++ tail, rest)
termination_by cs.length
decreasing_by exact _h

/-- Read a block scalar after its indicator; the lines around it are indented by `parent`. -/
def block (folded : Bool) (parent : Int) (cs : List Char) : Option (List Char × List Char) := do
  let (header, cs) ← blockHeader cs
  let least := (max (parent + 1) 1).toNat
  let (indent, breaks, column, rest) := match header.increment with
    | none =>
      let (breaks, greatest, column, rest) := blockIndentation 0 0 cs
      (max least greatest, breaks, column, rest)
    | some increment =>
      let indent := least + increment - 1
      let (breaks, column, rest) := blockBreaks indent 0 cs
      (indent, breaks, column, rest)
  if column == indent && !rest.isEmpty then
    let (text, rest) := blockLines folded header.chomping indent rest
    return (breaks ++ text, rest)
  else return (if header.chomping = .keep then breaks else [], rest)

end HttpSuite.Yaml
