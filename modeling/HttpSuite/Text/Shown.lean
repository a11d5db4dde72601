import HttpSuite.Text.Hex
import HttpSuite.Text.Printable
import HttpSuite.Text.RawText

/-!
# Shown texts

How a text is quoted inside a message: in single quotes, or in double quotes if it holds a single
quote and no double quote. The backslash and the chosen quote are escaped, line feed, carriage
return and tab have short escapes, and any other code point that is not printable is written by its
number in the shortest of three forms. Bytes are shown as the ASCII text they are.
-/

namespace HttpSuite.Text

/-- The quote that encloses a shown text. -/
def shownQuote (text : RawText) : Char :=
  if text.contains (.char '\'') && !text.contains (.char '"') then '"' else '\''

/-- One character of a shown text. -/
def shownChar (quote c : Char) : List Char :=
  if c == quote || c == '\\' then ['\\', c]
  else if c == '\n' then ['\\', 'n']
  else if c == '\r' then ['\\', 'r']
  else if c == '\t' then ['\\', 't']
  else if isPrintable c then [c]
  else if c.toNat < 0x100 then '\\' :: 'x' :: hexDigits 2 c.toNat
  else if c.toNat < 0x10000 then '\\' :: 'u' :: hexDigits 4 c.toNat
  else '\\' :: 'U' :: hexDigits 8 c.toNat

/-- One code point of a shown text. -/
def shownPoint (quote : Char) : Point → List Char
  | .char c => shownChar quote c
  | .surrogate index => '\\' :: 'u' :: hexDigits 4 (Point.toNat (.surrogate index))

/-- A text as messages quote it. -/
def shown (text : RawText) : String :=
  let quote := shownQuote text
  String.ofList (quote :: text.flatMap (shownPoint quote) ++ [quote])

/-- The characters of a list of code points, and the replacement character for those that are none. -/
def charsOfPoints (points : List Nat) : List Char :=
  points.map fun n => if n.isValidChar then Char.ofNat n else '\ufffd'

/-- One byte of shown bytes: itself if it is a printable ASCII character. -/
def shownByte (quote : Char) (b : UInt8) : List Char :=
  if b < 0x7f then shownChar quote (Char.ofNat b.toNat) else '\\' :: 'x' :: hexDigits 2 b.toNat

/-- Bytes as messages quote them. -/
def shownBytes (bytes : List UInt8) : String :=
  let quote := shownQuote (bytes.map fun b => .char (Char.ofNat b.toNat))
  String.ofList ('b' :: quote :: bytes.flatMap (shownByte quote) ++ [quote])

end HttpSuite.Text
