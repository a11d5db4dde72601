import HttpSuite.Text.RawText

/-!
# Paths

A path is a root and a list of parts. Empty parts and `.` carry no meaning and are dropped when a path
is read; `..` is kept. One or two slashes in front are a root of their own, three or more count as one.
-/

namespace HttpSuite

/-- A path: its root (empty for a relative one) and its parts. -/
structure Path where
  root : String
  parts : List RawText
  deriving DecidableEq, Repr

namespace Path

/-- Split a text at every slash. -/
def splitSlashes (text : RawText) : List RawText :=
  text.foldr (fun point parts =>
    if point = .char '/' then [] :: parts
    else match parts with
      | [] => [[point]]
      | part :: rest => (point :: part) :: rest) [[]]

/-- The root of a path, by the slashes in front of it. -/
def rootOf (text : RawText) : String :=
  match (text.takeWhile (· == .char '/')).length with
  | 0 => ""
  | 2 => "//"
  | _ => "/"

/-- Read a path. -/
def ofText (text : RawText) : Path where
  root := rootOf text
  parts := (splitSlashes text).filter fun part => part != [] && part != [.char '.']

/-- A path in its normal spelling; the empty relative path is a dot. -/
def text (path : Path) : RawText :=
  match path.root, path.parts with
  | "", [] => [.char '.']
  | root, parts => RawText.ofText root ++ [Point.char '/'].intercalate parts

/-- The last part, empty if there is none. -/
def name (path : Path) : RawText :=
  path.parts.getLast?.getD []

/-- The path without its last part. -/
def parent (path : Path) : Path :=
  { path with parts := path.parts.dropLast }

/-- A path below another one. -/
def join (path : Path) (name : RawText) : Path :=
  { path with parts := path.parts ++ [name] }

/-- Whether the last part names an entry of its own, and is not the way back to the directory above. -/
def hasOwnName (path : Path) : Bool :=
  !path.parts.isEmpty && path.name != [.char '.', .char '.']

end Path

/-- A file name without its extension: what stands before the last dot, unless that dot is the first
or the last code point. -/
def stemOf (name : RawText) : RawText :=
  let extension := name.reverse.takeWhile (· != .char '.')
  let base := ((name.reverse.dropWhile (· != .char '.')).drop 1).reverse
  if extension.length < name.length && !extension.isEmpty && !base.isEmpty then base else name

/-- The last part of a path without its extension. -/
def Path.stem (path : Path) : RawText :=
  stemOf path.name

end HttpSuite
