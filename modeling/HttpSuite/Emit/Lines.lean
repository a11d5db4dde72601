/-!
# Lines of generated code

Generated code is built from lines. Indentation leaves empty lines empty.
-/

namespace HttpSuite.Emit

/-- Indent by `depth` steps of `width` blanks; a negative amount is none. -/
def indent (lines : List String) (depth : Int) (width : Int := 4) : List String :=
  let pad := String.ofList (List.replicate (depth * width).toNat ' ')
  lines.map fun line => if line.isEmpty then line else pad ++ line

/-- Lines as one text, without a line feed at its end. -/
def joinLines (lines : List String) : String :=
  "\n".intercalate lines

/-- A whole file: the header, the units and the footer with separators between them, and one line
feed at the end. -/
def fileText (separator header : String) (units : List String) (footer : Option String) : String :=
  let body := separator.intercalate (header :: units)
  let text := match footer with
    | none => body
    | some footer => body ++ "\n" ++ footer
  String.ofList ((text.toList.reverse.dropWhile (· == '\n')).reverse ++ ['\n'])

/-- The words that name a source, or nothing if it has no name. -/
def origin (sourceName : Option String) : String :=
  match sourceName with
  | none => ""
  | some name => if name.isEmpty then "" else " from " ++ name

end HttpSuite.Emit
