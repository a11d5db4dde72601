import HttpSuite.Text.Blank
import HttpSuite.Text.Identifier
import HttpSuite.Text.Shown

/-!
# Target languages

The languages that tests are generated in, how they are named, and which names each of them accepts
for the things a generated file declares.
-/

namespace HttpSuite

/-- The language of a generated file. -/
inductive Target
  | python
  | java
  deriving DecidableEq, Repr

namespace Target

/-- The targets in the order in which messages list them. -/
def all : List Target := [.python, .java]

/-- The name of a target. -/
def name : Target → String
  | .python => "python"
  | .java => "java"

/-- The extension of a generated file. -/
def extension : Target → String
  | .python => ".py"
  | .java => ".java"

/-- The names and aliases of the targets. -/
def aliases : List (String × Target) :=
  [("python", .python), ("py", .python), ("java", .java)]

/-- The target with a given name or alias, blanks around it and the case of its letters aside. The
names are ASCII, and no other letter has one of their letters as its lower case. -/
def ofName? (name : String) : Option Target :=
  aliases.lookup (String.ofList ((Text.trim Text.isBlank name.toList).map Char.toLower))

/-- The wording for a name that is no target, as it is shown. -/
def unknown (shown : String) : String :=
  "Unknown target: " ++ shown

/-- The target with a given name, or the wording for a name that is no target. -/
def ofName (name : String) : Except String Target :=
  match ofName? name with
  | some target => .ok target
  | none => .error (unknown (Text.shown name))

/-- The target that is asked for by name. Without a name, or with an empty one, none is asked for. -/
def ofRequest (name : Option String) : Except String (Option Target) :=
  match name with
  | none => .ok none
  | some name => if name.isEmpty then .ok none else (ofName name).map some

end Target

/-- The words that Python does not take as names. -/
def pythonKeywords : List String :=
  ["False", "None", "True", "and", "as", "assert", "async", "await", "break", "class", "continue",
    "def", "del", "elif", "else", "except", "finally", "for", "from", "global", "if", "import", "in",
    "is", "lambda", "nonlocal", "not", "or", "pass", "raise", "return", "try", "while", "with",
    "yield"]

/-- Whether Python takes a text as a name. -/
def isPythonName (name : String) : Bool :=
  Text.isIdentifier name.toList && !pythonKeywords.contains name

/-- The words that Java does not take as names. -/
def javaKeywords : List String :=
  ["abstract", "assert", "boolean", "break", "byte", "case", "catch", "char", "class", "const",
    "continue", "default", "do", "double", "else", "enum", "extends", "final", "finally", "float",
    "for", "goto", "if", "implements", "import", "instanceof", "int", "interface", "long", "native",
    "new", "package", "private", "protected", "public", "return", "short", "static", "strictfp",
    "super", "switch", "synchronized", "this", "throw", "throws", "transient", "try", "void",
    "volatile", "while", "true", "false", "null", "_"]

/-- Whether Java takes a text as a name: an identifier in which a dollar sign counts as an
underscore. -/
def isJavaName (name : String) : Bool :=
  Text.isIdentifier (name.toList.map fun c => if c = '$' then '_' else c) &&
    !javaKeywords.contains name

end HttpSuite
