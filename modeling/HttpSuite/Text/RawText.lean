import HttpSuite.Text.Hex

/-!
# Raw texts

A text from outside, such as the name of a file, is a list of code points that need not all be
characters: a surrogate may stand alone. A raw text without surrogates is a text.

- `RawText.ofText`, `RawText.toText`: a text as a raw text, and back.
- `RawText.firstRefused?`: the first surrogate that an encoding does not take.
-/

namespace HttpSuite

/-- A code point. -/
inductive Point
  | char (c : Char)
  /-- A surrogate, which is no character, by its number among the surrogates. -/
  | surrogate (index : Fin 0x800)
  deriving DecidableEq, Repr

namespace Point

/-- The number of the first surrogate. -/
def firstSurrogate : Nat := 0xd800

/-- The number of a code point. -/
def toNat : Point → Nat
  | .char c => c.toNat
  | .surrogate index => firstSurrogate + index.val

/-- The code point with a number. -/
def ofNat (n : Nat) : Point :=
  if h : firstSurrogate ≤ n ∧ n - firstSurrogate < 0x800 then .surrogate ⟨n - firstSurrogate, h.2⟩
  else .char (Char.ofNat n)

/-- The character that a code point is. -/
def char? : Point → Option Char
  | .char c => some c
  | .surrogate _ => none

/-- Whether a code point is a surrogate. -/
def isSurrogate : Point → Bool
  | .char _ => false
  | .surrogate _ => true

end Point

/-- A list of code points. -/
abbrev RawText := List Point

/-- A surrogate that an encoding does not take: its offset, and how many surrogates stand there. -/
structure EncodingFault where
  offset : Nat
  index : Fin 0x800
  length : Nat
  deriving DecidableEq, Repr

/-- The wording of an encoding fault. -/
def EncodingFault.message (fault : EncodingFault) : String :=
  let place :=
    if fault.length ≤ 1 then
      "character '\\u" ++
        String.ofList (Text.hexDigits 4 (Point.toNat (.surrogate fault.index))) ++
        "' in position " ++ toString fault.offset
    else
      "characters in position " ++ toString fault.offset ++ "-" ++
        toString (fault.offset + fault.length - 1)
  "'utf-8' codec can't encode " ++ place ++ ": surrogates not allowed"

namespace RawText

/-- A text as a raw text. -/
def ofText (text : String) : RawText :=
  text.toList.map .char

instance : Coe String RawText := ⟨ofText⟩

/-- The first surrogate that is refused, with those right behind it. -/
def firstRefused? (refused : Fin 0x800 → Bool) (offset : Nat) : RawText → Option EncodingFault
  | [] => none
  | .char _ :: rest => firstRefused? refused (offset + 1) rest
  | .surrogate index :: rest =>
    if refused index then some ⟨offset, index, 1 + (rest.takeWhile Point.isSurrogate).length⟩
    else firstRefused? refused (offset + 1) rest

/-- The text that a raw text is, unless it holds a surrogate. -/
def toText (raw : RawText) : Except EncodingFault String :=
  match raw.firstRefused? (fun _ => true) 0 with
  | some fault => .error fault
  | none => .ok (String.ofList (raw.filterMap Point.char?))

/-- Whether a raw text stands before another one in the order of the numbers of their code points. -/
def precedes : RawText → RawText → Bool
  | _, [] => false
  | [], _ :: _ => true
  | p :: ps, q :: qs => p.toNat < q.toNat || (p.toNat == q.toNat && precedes ps qs)

/-- A raw text as it can be read: the replacement character stands for every surrogate. -/
def legible (raw : RawText) : String :=
  String.ofList (raw.map fun point => point.char?.getD '\ufffd')

end RawText

end HttpSuite
