import HttpSuite.Text.FileName
import HttpSuite.Text.Shown

/-!
# File errors

What the file system may answer instead of doing its job, with the number and the wording of each
cause and the path, or the two paths, it concerns. Some texts never reach the file system: a path with a
null character, and a path or a file whose text cannot be encoded.
-/

namespace HttpSuite

/-- The causes of file errors. -/
inductive FileFault
  | noEntry
  | denied
  | busy
  | exists
  | notDirectory
  | isDirectory
  | nameTooLong
  /-- A path with a null character. -/
  | nullCharacter
  /-- A text with a surrogate that has no bytes. -/
  | unencodable (fault : EncodingFault)
  /-- Any other cause, by its number and its wording. -/
  | other (number : Nat) (text : String)
  deriving DecidableEq, Repr

namespace FileFault

/-- The number of a cause. -/
def number : FileFault → Nat
  | .noEntry => 2
  | .denied => 13
  | .busy => 16
  | .exists => 17
  | .notDirectory => 20
  | .isDirectory => 21
  | .nameTooLong => 36
  | .nullCharacter => 0
  | .unencodable _ => 0
  | .other number _ => number

/-- The wording of a cause. -/
def text : FileFault → String
  | .noEntry => "No such file or directory"
  | .denied => "Permission denied"
  | .busy => "Device or resource busy"
  | .exists => "File exists"
  | .notDirectory => "Not a directory"
  | .isDirectory => "Is a directory"
  | .nameTooLong => "File name too long"
  | .nullCharacter => "embedded null byte"
  | .unencodable fault => fault.message
  | .other _ text => text

/-- Whether a cause is found before the file system is asked. -/
def isUnasked : FileFault → Bool
  | .nullCharacter | .unencodable _ => true
  | _ => false

/-- What keeps the spelling of a path from the file system. -/
def ofSpelling? (spelling : RawText) : Option FileFault :=
  match Text.nameFault? spelling with
  | some fault => some (.unencodable fault)
  | none => if spelling.contains (.char '\x00') then some .nullCharacter else none

end FileFault

/-- A cause with the path it concerns, if any, and, for a replacement, the path that was to be
replaced. -/
structure FileError where
  fault : FileFault
  path : Option RawText := none
  target : Option RawText := none
  deriving DecidableEq, Repr

/-- The wording of a file error: what the file system did not answer has neither number nor place. -/
def FileError.message (error : FileError) : String :=
  if error.fault.isUnasked then error.fault.text else
  let place := match error.path, error.target with
    | none, _ => ""
    | some path, none => ": " ++ Text.shown path
    | some path, some target => ": " ++ Text.shown path ++ " -> " ++ Text.shown target
  "[Errno " ++ toString error.fault.number ++ "] " ++ error.fault.text ++ place

end HttpSuite
