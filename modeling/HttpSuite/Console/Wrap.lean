import HttpSuite.Text.Blank
import HttpSuite.Text.Width

/-!
# Lines of a given width

A text that is wider than its place on the console goes on in further lines. Lines end between words
where they can; what becomes of a word that is wider than a whole line is the place's choice.

- `wrap`: the lines of a text in a place of some width.
-/

namespace HttpSuite.Wrap

/-- What becomes of a word that is wider than a line. -/
inductive Overflow
  /-- It goes on in the next line. -/
  | fold
  /-- It is cut and ends in three dots. -/
  | cut
  deriving DecidableEq, Repr

/-- How far apart the stops of tabs are. -/
def tabStop : Nat := 8

/-- Blanks in the place of tabs, in a line of which some columns are taken. -/
def expandTabs (column : Nat) : List Char → List Char
  | [] => []
  | c :: rest =>
    if c == '\t' then
      let blanks := tabStop - column % tabStop
      List.replicate blanks ' ' ++ expandTabs (column + blanks) rest
    else c :: expandTabs (column + Text.charWidth c) rest

/-- The words of a line after the start of one, which is kept in reverse. A word has the blanks that
follow it, and the first one also those in front of it. -/
def wordsAfter (start : List Char) (isStarted : Bool) : List Char → List (List Char)
  | [] => if isStarted then [start.reverse] else []
  | c :: rest =>
    if Text.isBlank c then wordsAfter (c :: start) isStarted rest
    else if isStarted && start.head?.any Text.isBlank then start.reverse :: wordsAfter [c] true rest
    else wordsAfter (c :: start) true rest

/-- The words of a line. -/
def words (cs : List Char) : List (List Char) :=
  wordsAfter [] false cs

/-- Cut a text into pieces of at most a width, after the start of one, which is kept in reverse. -/
def chopAfter (width : Nat) (start : List Char) (taken : Nat) : List Char → List (List Char)
  | [] => [start.reverse]
  | c :: rest =>
    if width < taken + Text.charWidth c then
      start.reverse :: chopAfter width [c] (Text.charWidth c) rest
    else chopAfter width (c :: start) (taken + Text.charWidth c) rest

/-- Lines that are being filled: those that are full, the last first, and the one that is not. -/
structure Filling where
  full : List (List Char) := []
  last : List Char := []
  /-- How many columns of the last line are taken. -/
  taken : Nat := 0

namespace Filling

/-- Whether nothing has been put down yet. -/
def isEmpty (filling : Filling) : Bool :=
  filling.full.isEmpty && filling.last.isEmpty

/-- Put a piece at the start of a new line. The first line is new already. -/
def startLine (filling : Filling) (piece : List Char) : Filling :=
  let full := if filling.isEmpty then [] else filling.last :: filling.full
  { full, last := piece, taken := Text.width piece }

/-- Put down a word. -/
def putWord (width : Nat) (overflow : Overflow) (filling : Filling) (word : List Char) : Filling :=
  let needed := Text.width (Text.trimRight Text.isBlank word)
  if filling.taken + needed ≤ width then
    { filling with last := filling.last ++ word, taken := filling.taken + Text.width word }
  else if width < needed && overflow = .fold then
    (chopAfter width [] 0 word).foldl startLine filling
  else filling.startLine word

/-- The lines. -/
def lines (filling : Filling) : List (List Char) :=
  (filling.last :: filling.full).reverse

end Filling

/-- As much of a text as fits a width; half a character counts as a blank. -/
def crop (width : Nat) : List Char → List Char
  | [] => []
  | c :: rest =>
    if Text.charWidth c ≤ width then c :: crop (width - Text.charWidth c) rest
    else List.replicate width ' '

/-- Drop blanks at the end of a line as far as they are past a number of characters. -/
def dropExcessBlanks (size : Nat) (cs : List Char) : List Char :=
  let blanks := (cs.reverse.takeWhile Text.isBlank).length
  cs.take (cs.length - min blanks (cs.length - size))

/-- A line that is not wider than its place. -/
def fitted (width : Nat) (overflow : Overflow) (cs : List Char) : List Char :=
  let cs := dropExcessBlanks width cs
  if Text.width cs ≤ width then cs
  else match overflow with
    | .fold => crop width (Text.trimRight Text.isBlank cs)
    | .cut => crop (width - 1) cs ++ ['…']

/-- The lines of one line of text in a place of some width. -/
def wrap (width : Nat) (overflow : Overflow) (cs : List Char) : List (List Char) :=
  let cs := expandTabs 0 cs
  match words cs with
  | [] => [fitted width overflow cs]
  | words =>
    (words.foldl (Filling.putWord width overflow) {}).lines.map (fitted width overflow)

end HttpSuite.Wrap
