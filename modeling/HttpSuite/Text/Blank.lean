/-!
# Blank characters

The white space of Unicode, and the same with the four information separators, which count as blank
where a name is trimmed but not where a number is.
-/

namespace HttpSuite.Text

/-- White space of any script (the Unicode property White_Space). -/
def isWhiteSpace (c : Char) : Bool :=
  let n := c.toNat
  (0x09 ≤ n && n ≤ 0x0d) || n == 0x20 || n == 0x85 || n == 0xa0 || n == 0x1680 ||
    (0x2000 ≤ n && n ≤ 0x200a) || n == 0x2028 || n == 0x2029 || n == 0x202f || n == 0x205f ||
    n == 0x3000

/-- White space or an information separator (U+001C to U+001F). -/
def isBlank (c : Char) : Bool :=
  isWhiteSpace c || (0x1c ≤ c.toNat && c.toNat ≤ 0x1f)

/-- Drop the characters of a class from the end of a text. -/
def trimRight (drop : Char → Bool) (cs : List Char) : List Char :=
  (cs.reverse.dropWhile drop).reverse

/-- Drop the characters of a class from both ends of a text. -/
def trim (drop : Char → Bool) (cs : List Char) : List Char :=
  trimRight drop (cs.dropWhile drop)

end HttpSuite.Text
