/-!
# Base 64

Four characters of the alphabet stand for three bytes. Characters outside the alphabet are passed over.
A group may end early with as many equals signs as it lacks characters, and nothing after them counts;
otherwise the last group must be complete.
-/

namespace HttpSuite.Text

/-- The six bits that a character of the alphabet stands for. -/
def base64Value? (c : Char) : Option Nat :=
  if 'A' ≤ c && c ≤ 'Z' then some (c.toNat - 'A'.toNat)
  else if 'a' ≤ c && c ≤ 'z' then some (c.toNat - 'a'.toNat + 26)
  else if '0' ≤ c && c ≤ '9' then some (c.toNat - '0'.toNat + 52)
  else if c == '+' then some 62
  else if c == '/' then some 63
  else none

/-- The bytes of the rest of a text. `place` characters of a group have been read, `left` holds the bits
that are not yet part of a byte, and `pads` counts the equals signs since the last character. -/
def base64From (place left pads : Nat) : List Char → Option (List UInt8)
  | [] => if place = 0 then some [] else none
  | c :: rest =>
    if c == '=' then
      if place < 2 then base64From place left pads rest
      else if 4 ≤ place + pads + 1 then some []
      else base64From place left (pads + 1) rest
    else match base64Value? c, place with
      | none, _ => base64From place left pads rest
      | some value, 0 => base64From 1 value 0 rest
      | some value, 1 =>
        (base64From 2 (value % 16) 0 rest).map ((left * 4 + value / 16).toUInt8 :: ·)
      | some value, 2 =>
        (base64From 3 (value % 4) 0 rest).map ((left * 16 + value / 4).toUInt8 :: ·)
      | some value, _ => (base64From 0 0 0 rest).map ((left * 64 + value).toUInt8 :: ·)

/-- The bytes that a text in base 64 stands for. -/
def decodeBase64 (cs : List Char) : Option (List UInt8) :=
  base64From 0 0 0 cs

end HttpSuite.Text
