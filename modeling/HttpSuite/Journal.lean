import HttpSuite.Journal.Event

/-!
# The journal

Events at or above a threshold are shown, one line each: as a record of all fields, or as a text with
columns. The line also names the part of the program that reports, and the time.
-/

namespace HttpSuite

/-- How events are shown. -/
structure Journal where
  threshold : Level := .warning
  json : Bool := false
  deriving DecidableEq, Repr

namespace Journal

/-- The part of the program that reports. -/
def reporter : String := "testlang.pipeline"

/-- The names of levels that a journal can be set to, besides those of the levels themselves. The name
for an unset level stands for the usual one. -/
def aliases : List (String × Level) :=
  [("WARN", .warning), ("FATAL", .critical), ("NOTSET", .warning)]

/-- The threshold with a given name in any case. -/
def threshold? (name : String) : Option Level :=
  Level.ofName? name <|> aliases.lookup (Text.upperCase name)

/-- The usual layout of a line of text, which has a name of its own. -/
def plainLayout : String := "%(levelname)s:%(name)s:%(message)s"

/-- All layouts of a line of text by the mark that they use, which have a name of their own, too. -/
def shownLayouts : String :=
  "\x7b'%': (<class 'logging.PercentStyle'>, '" ++ plainLayout ++ "'), '\x7b': " ++
    "(<class 'logging.StrFormatStyle'>, '\x7blevelname\x7d:\x7bname\x7d:\x7bmessage\x7d'), '$': " ++
    "(<class 'logging.StringTemplateStyle'>, '$\x7blevelname\x7d:$\x7bname\x7d:$\x7bmessage\x7d')\x7d"

/-- Why a name sets no threshold: it is no name, or the name of a layout or of all layouts. -/
inductive LevelFault
  | unknown (name : String)
  | layout
  | layouts
  deriving DecidableEq, Repr

/-- The fault of a name in capitals. -/
def LevelFault.ofName (name : String) : LevelFault :=
  if name == "BASIC_FORMAT" then .layout
  else if name == "_STYLES" then .layouts
  else .unknown name

/-- The wording for a name that is no level. -/
def LevelFault.message : LevelFault → String
  | .unknown name => "module 'logging' has no attribute '" ++ name ++ "'"
  | .layout => "Unknown level: " ++ Text.shown plainLayout
  | .layouts => "Level not an integer or a valid string: " ++ shownLayouts

/-- Set the format and the threshold. With an unknown level the threshold stays. -/
def configure (journal : Journal) (level : String) (json : Bool) :
    Except LevelFault Unit × Journal :=
  match threshold? level with
  | some threshold => (.ok (), { threshold, json })
  | none => (.error (.ofName (Text.upperCase level)), { journal with json })

/-- The events that are shown. -/
def visible (journal : Journal) (events : List Event) : List Event :=
  events.filter fun event => journal.threshold.weight ≤ event.level.weight

/-! ## Lines -/

/-- The name of a level as it stands in a line. -/
def levelName (level : Level) : String :=
  String.ofList (level.name.toList.map Char.toLower)

/-- An event as a record, in the order of the names of its fields. -/
def record (event : Event) : Data :=
  let fields := event.fields ++
    [("event", .text event.name), ("level", .text (levelName event.level)),
      ("logger", .text reporter)]
  .record (fields.mergeSort fun a b => decide (a.1 ≤ b.1))

/-- Fill a column with blanks. -/
def pad (width : Nat) (text : String) : String :=
  text ++ String.ofList (List.replicate (width - text.length) ' ')

/-- Characters for which a value is quoted. -/
def needsQuotes (c : Char) : Bool :=
  [' ', '\t', '=', '\r', '\n', '"', '\''].contains c

/-- The value of a field in a line. -/
def valueText : Data → String
  | .text value => if value.toList.any needsQuotes then Text.shown value else value
  | value => value.shown

/-- An event as a line of text with a given time. -/
def line (time : String) (event : Event) : String :=
  let fields := event.fields.map fun (name, value) => name ++ "=" ++ valueText value
  let columns := [time, "[" ++ pad 9 (levelName event.level) ++ "]", pad 30 event.name,
    "[" ++ reporter ++ "]"] ++ fields
  String.ofList (Text.trimRight Text.isBlank (" ".intercalate columns).toList)

end Journal

end HttpSuite
