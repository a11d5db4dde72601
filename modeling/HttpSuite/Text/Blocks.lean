import HttpSuite.Text.Utf8

/-!
# Decoding in blocks

A file that is read block by block is decoded block by block. A sequence that a block ends in waits
for the next block, and the offset of a fault counts from the start of what was being decoded.
-/

namespace HttpSuite.Text

/-- Split bytes into blocks of a positive size. -/
def blocksOf (size : Nat) (bytes : List UInt8) : List (List UInt8) :=
  match bytes with
  | [] => []
  | b :: rest => (b :: rest.take (size - 1)) :: blocksOf size (rest.drop (size - 1))
termination_by bytes.length

/-- Decode blocks after bytes that are waiting: the characters of the blocks before the first faulty
one, and its fault. -/
def decodeBlocks (waiting : List UInt8) : List (List UInt8) → List Char × Option Utf8Fault
  | [] =>
    match decodeFrom 0 waiting with
    | .ok cs => (cs, none)
    | .error fault => ([], some fault)
  | block :: rest =>
    let bytes := waiting ++ block
    match decodeFrom 0 bytes with
    | .ok cs =>
      let (more, fault) := decodeBlocks [] rest
      (cs ++ more, fault)
    | .error fault =>
      if fault.reason = .unexpectedEnd then
        match decodeFrom 0 (bytes.take fault.offset) with
        | .ok cs =>
          let (more, fault) := decodeBlocks (bytes.drop fault.offset) rest
          (cs ++ more, fault)
        | .error fault => ([], some fault)
      else ([], some fault)

/-- The text that bytes encode, read in blocks of a size: the characters before the first faulty block,
and its fault. -/
def decodeUtf8InBlocks (size : Nat) (bytes : List UInt8) : List Char × Option Utf8Fault :=
  decodeBlocks [] (blocksOf size bytes)

end HttpSuite.Text
