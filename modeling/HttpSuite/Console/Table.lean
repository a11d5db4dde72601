import HttpSuite.Console.Screen
import HttpSuite.Console.Wrap

/-!
# Tables

A table has a title above rows of cells. Each column is as wide as its widest cell, where tabs and
what ends a line count as nothing; a cell that turns out wider goes on in further lines, and so does
a title that is wider than the table.

- `Table.lines`: the lines of a table without layout.
-/

namespace HttpSuite.Console

/-- A table; the first row holds the names of the columns. -/
structure Table where
  title : List Char
  rows : List (List (List Char))
  deriving DecidableEq, Repr

/-- The lines of a text that is laid out. -/
def textLines (cs : List Char) : List (List Char) :=
  Screen.splitAt (· == '\n') cs

/-- The width of the widest line of a text, after some columns of a line and with a widest line so far. -/
def widestLine (taken widest : Nat) : List Char → Nat
  | [] => max taken widest
  | c :: rest =>
    if Screen.endsLine c then widestLine 0 (max taken widest) rest
    else widestLine (taken + Text.charWidth c) widest rest

namespace Table

/-- The wider one of two rows, column by column. -/
def widerOf : List Nat → List Nat → List Nat
  | first :: rest, other :: others => max first other :: widerOf rest others
  | [], others => others
  | rest, [] => rest

/-- The widths of the columns. -/
def columnWidths (table : Table) : List Nat :=
  (table.rows.map (·.map (widestLine 0 0))).foldl widerOf []

/-- The width of the table: each column has a blank on both sides, and lines are drawn around and
between the columns. -/
def width (table : Table) : Nat :=
  (table.columnWidths.map (· + 2)).foldr (· + ·) 0 + table.columnWidths.length + 1

/-- The lines of a row, each with what the cells have in it. -/
def rowLines (widths : List Nat) (row : List (List Char)) : List (List Char) :=
  let cells := List.zipWith (fun width cell =>
    (textLines cell).flatMap (Wrap.wrap width .cut)) widths row
  let height := (cells.map List.length).foldl max 0
  (List.range height).map fun i =>
    (cells.map fun lines => lines[i]?.getD []).intersperse [' '] |>.flatten

/-- The lines of a table without layout. -/
def lines (table : Table) : List String :=
  let title := (textLines table.title).flatMap (Wrap.wrap table.width .fold)
  let rows := table.rows.flatMap (rowLines table.columnWidths)
  (title ++ rows).flatMap fun line => Screen.lines (String.ofList line)

end Table

end HttpSuite.Console
