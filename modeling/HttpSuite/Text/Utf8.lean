import HttpSuite.Text.Hex

/-!
# Decoding UTF-8

Bytes are decoded strictly: no overlong forms, no surrogates, nothing above U+10FFFF. The first fault
is reported with the offset of the sequence it belongs to and the number of bytes that were still good
there.
-/

namespace HttpSuite.Text

/-- Why a byte sequence is no UTF-8. -/
inductive Utf8Reason
  | invalidStart
  | invalidContinuation
  | unexpectedEnd
  deriving DecidableEq, Repr

/-- The wording of a reason. -/
def Utf8Reason.text : Utf8Reason → String
  | .invalidStart => "invalid start byte"
  | .invalidContinuation => "invalid continuation byte"
  | .unexpectedEnd => "unexpected end of data"

/-- The bad sequence: its offset, its first byte, and the number of bytes it covers. -/
structure Utf8Fault where
  offset : Nat
  byte : UInt8
  length : Nat
  reason : Utf8Reason
  deriving DecidableEq, Repr

/-- The wording of a fault. -/
def Utf8Fault.message (fault : Utf8Fault) : String :=
  let place :=
    if fault.length ≤ 1 then
      "byte 0x" ++ String.ofList (hexDigits 2 fault.byte.toNat) ++ " in position " ++
        toString fault.offset
    else
      "bytes in position " ++ toString fault.offset ++ "-" ++
        toString (fault.offset + fault.length - 1)
  "'utf-8' codec can't decode " ++ place ++ ": " ++ fault.reason.text

/-- How many bytes follow a start byte, its payload, and the range of the byte right after it. -/
def startByte? (b : UInt8) : Option (Nat × Nat × UInt8 × UInt8) :=
  if b < 0x80 then some (0, b.toNat, 0x80, 0xbf)
  else if b < 0xc2 then none
  else if b < 0xe0 then some (1, b.toNat % 0x20, 0x80, 0xbf)
  else if b < 0xf0 then
    some (2, b.toNat % 0x10, if b == 0xe0 then 0xa0 else 0x80, if b == 0xed then 0x9f else 0xbf)
  else if b < 0xf5 then
    some (3, b.toNat % 0x08, if b == 0xf0 then 0x90 else 0x80, if b == 0xf4 then 0x8f else 0xbf)
  else none

/-- Read `count` continuation bytes, the first within the given range and the others within the
plain one. The result is the value and the number of bytes read, or how many were good and why the
next is not. -/
def continuation (value : Nat) (low high : UInt8) :
    (count : Nat) → List UInt8 → Except (Nat × Utf8Reason) Nat
  | 0, _ => .ok value
  | _ + 1, [] => .error (0, .unexpectedEnd)
  | count + 1, b :: rest =>
    if low ≤ b && b ≤ high then
      (continuation (value * 0x40 + b.toNat % 0x40) 0x80 0xbf count rest).mapError
        fun (good, reason) => (good + 1, reason)
    else .error (0, .invalidContinuation)

/-- Decode bytes from a given offset on. -/
def decodeFrom (offset : Nat) (bytes : List UInt8) : Except Utf8Fault (List Char) :=
  match bytes with
  | [] => .ok []
  | b :: rest =>
    match startByte? b with
    | none => .error ⟨offset, b, 1, .invalidStart⟩
    | some (count, payload, low, high) =>
      match continuation payload low high count rest with
      | .error (good, reason) => .error ⟨offset, b, good + 1, reason⟩
      | .ok value => do
        let tail ← decodeFrom (offset + count + 1) (rest.drop count)
        return Char.ofNat value :: tail
termination_by bytes.length

/-- The text that bytes encode. -/
def decodeUtf8 (bytes : List UInt8) : Except Utf8Fault String :=
  (decodeFrom 0 bytes).map String.ofList

/-- The bytes of a text. -/
def encodeUtf8 (text : String) : List UInt8 :=
  text.toUTF8.toList

end HttpSuite.Text
