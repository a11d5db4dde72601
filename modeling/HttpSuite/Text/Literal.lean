import HttpSuite.Text.Hex

/-!
# String literals

The double-quoted literal of a text. Quote and backslash are escaped, the five control characters
with a short escape use it, and the other characters below U+0020 are written `\u00XX`. Everything
else stands for itself, so the literal reads the same in both output languages and in JSON.
-/

namespace HttpSuite.Text

/-- One character inside a literal. -/
def literalChar (c : Char) : List Char :=
  if c == '"' then ['\\', '"']
  else if c == '\\' then ['\\', '\\']
  else if c == '\n' then ['\\', 'n']
  else if c == '\r' then ['\\', 'r']
  else if c == '\t' then ['\\', 't']
  else if c == '\x08' then ['\\', 'b']
  else if c == '\x0c' then ['\\', 'f']
  else if c.toNat < 0x20 then '\\' :: 'u' :: hexDigits 4 c.toNat
  else [c]

/-- The characters of the literal of a text, its quotes included. -/
def literalChars (cs : List Char) : List Char :=
  '"' :: cs.flatMap literalChar ++ ['"']

/-- The string literal that denotes a text. -/
def literal (text : String) : String :=
  String.ofList (literalChars text.toList)

end HttpSuite.Text
