import HttpSuite.Text.RawText
import HttpSuite.Text.Utf8

/-!
# File names

A volume keeps names as bytes. A name that is no UTF-8 is read all the same: each byte that cannot be
decoded becomes one of 128 surrogates, which stands for this byte when the name is used again. The other
surrogates stand for nothing, so that a name with one of them has no bytes.

- `nameBytes`: the bytes of a name.
- `nameFault?`: why a name has no bytes.
- `ofNameBytes`: the name with given bytes.
-/

namespace HttpSuite.Text

/-- The number of the surrogate that stands for the byte 0, if it stood for one. -/
def escapeBase : Nat := 0x400

/-- The byte that a surrogate stands for: one of the upper half. -/
def escapedByte? (index : Fin 0x800) : Option UInt8 :=
  if escapeBase + 0x80 ≤ index.val ∧ index.val < escapeBase + 0x100 then
    some (index.val - escapeBase).toUInt8
  else none

/-- The surrogate that stands for a byte. -/
def escapeOf (b : UInt8) : Point :=
  .surrogate (Fin.ofNat 0x800 (escapeBase + b.toNat))

/-- The bytes of a code point in a name. -/
def pointBytes : Point → List UInt8
  | .char c => String.utf8EncodeChar c
  | .surrogate index => (escapedByte? index).toList

/-- The bytes of a name. -/
def nameBytes (name : RawText) : List UInt8 :=
  name.flatMap pointBytes

/-- The first surrogate of a name that stands for no byte. -/
def nameFault? (name : RawText) : Option EncodingFault :=
  name.firstRefused? (fun index => (escapedByte? index).isNone) 0

/-- The name with given bytes. -/
def ofNameBytes (bytes : List UInt8) : RawText :=
  match bytes with
  | [] => []
  | b :: rest =>
    match startByte? b with
    | none => escapeOf b :: ofNameBytes rest
    | some (count, payload, low, high) =>
      match continuation payload low high count rest with
      | .error _ => escapeOf b :: ofNameBytes rest
      | .ok value => .char (Char.ofNat value) :: ofNameBytes (rest.drop count)
termination_by bytes.length

end HttpSuite.Text
