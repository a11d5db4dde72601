import HttpSuite.Number.Numeral
import HttpSuite.Text.LowerCase

/-!
# Styles

A style is written in words: attributes that are switched on or off, a colour, a background after `on`,
and a link. Styles that amount to the same have the same name, which lists what they set in a fixed
order.

- `Style.ofWords`: the style that words describe.
- `Style.nameOf`: the name of a style; what describes none is a name of its own.
-/

namespace HttpSuite.Markup

/-- What a style sets. -/
structure Style where
  /-- Attributes with whether they are on, the last setting first. -/
  attributes : List (String × Bool) := []
  colour : Option String := none
  background : Option String := none
  link : Option String := none
  deriving DecidableEq, Repr

/-- Why words describe no style. -/
inductive StyleFault
  | unknownWord
  /-- A colour by numbers, one of which is none. -/
  | notNumber
  deriving DecidableEq, Repr

/-! ## Colours -/

/-- The names of colours. -/
def colourNames : String := "
  default black red green yellow blue magenta cyan white bright_black bright_red bright_green
  bright_yellow bright_blue bright_magenta bright_cyan bright_white grey0 gray0 navy_blue
  dark_blue blue3 blue1 dark_green deep_sky_blue4 dodger_blue3 dodger_blue2 green4 spring_green4
  turquoise4 deep_sky_blue3 dodger_blue1 green3 spring_green3 dark_cyan light_sea_green
  deep_sky_blue2 deep_sky_blue1 spring_green2 cyan3 dark_turquoise turquoise2 green1
  spring_green1 medium_spring_green cyan2 cyan1 dark_red deep_pink4 purple4 purple3 blue_violet
  orange4 grey37 gray37 medium_purple4 slate_blue3 royal_blue1 chartreuse4 dark_sea_green4
  pale_turquoise4 steel_blue steel_blue3 cornflower_blue chartreuse3 cadet_blue sky_blue3
  steel_blue1 pale_green3 sea_green3 aquamarine3 medium_turquoise chartreuse2 sea_green2
  sea_green1 aquamarine1 dark_slate_gray2 dark_magenta dark_violet purple light_pink4 plum4
  medium_purple3 slate_blue1 yellow4 wheat4 grey53 gray53 light_slate_grey light_slate_gray
  medium_purple light_slate_blue dark_olive_green3 dark_sea_green light_sky_blue3 sky_blue2
  dark_sea_green3 dark_slate_gray3 sky_blue1 chartreuse1 light_green pale_green1 dark_slate_gray1
  red3 medium_violet_red magenta3 dark_orange3 indian_red hot_pink3 medium_orchid3 medium_orchid
  medium_purple2 dark_goldenrod light_salmon3 rosy_brown grey63 gray63 medium_purple1 gold3
  dark_khaki navajo_white3 grey69 gray69 light_steel_blue3 light_steel_blue yellow3
  dark_sea_green2 light_cyan3 light_sky_blue1 green_yellow dark_olive_green2 dark_sea_green1
  pale_turquoise1 deep_pink3 magenta2 hot_pink2 orchid medium_orchid1 orange3 light_pink3 pink3
  plum3 violet light_goldenrod3 tan misty_rose3 thistle3 plum2 khaki3 light_goldenrod2
  light_yellow3 grey84 gray84 light_steel_blue1 yellow2 dark_olive_green1 honeydew2 light_cyan1
  red1 deep_pink2 deep_pink1 magenta1 orange_red1 indian_red1 hot_pink dark_orange salmon1
  light_coral pale_violet_red1 orchid2 orchid1 orange1 sandy_brown light_salmon1 light_pink1
  pink1 plum1 gold1 navajo_white1 misty_rose1 thistle1 yellow1 light_goldenrod1 khaki1 wheat1
  cornsilk1 grey100 gray100 grey3 gray3 grey7 gray7 grey11 gray11 grey15 gray15 grey19 gray19
  grey23 gray23 grey27 gray27 grey30 gray30 grey35 gray35 grey39 gray39 grey42 gray42 grey46
  gray46 grey50 gray50 grey54 gray54 grey58 gray58 grey62 gray62 grey66 gray66 grey70 gray70
  grey74 gray74 grey78 gray78 grey82 gray82 grey85 gray85 grey89 gray89 grey93 gray93
  "

/-- Split a text at blanks. -/
def words (cs : List Char) : List (List Char) :=
  (cs.foldr (fun c parts =>
    if Text.isBlank c then [] :: parts
    else match parts with
      | [] => [[c]]
      | part :: rest => (c :: part) :: rest) [[]]).filter (!·.isEmpty)

/-- The names of colours, one by one. -/
def colours : List (List Char) :=
  words colourNames.toList

/-- Drop a start of a text and a closing parenthesis at its end. -/
def between? (start : String) (cs : List Char) : Option (List Char) :=
  if start.toList.isPrefixOf cs && cs.getLast? = some ')' && start.length < cs.length then
    some (cs.drop start.length).dropLast
  else none

/-- Whether a text is a colour by six hexadecimal digits. -/
def isHexColour : List Char → Bool
  | '#' :: digits => digits.length = 6 && digits.all fun c => (Text.hexValue? c).isSome
  | _ => false

/-- Whether a text is a colour by its number. -/
def isNumberedColour (cs : List Char) : Bool :=
  match between? "color(" cs with
  | some digits =>
    0 < digits.length && digits.length ≤ 3 && digits.all Char.isDigit &&
      Number.digitsValue digits ≤ 255
  | none => false

/-- Split a text at commas. -/
def splitCommas (cs : List Char) : List (List Char) :=
  cs.foldr (fun c parts =>
    if c == ',' then [] :: parts
    else match parts with
      | [] => [[c]]
      | part :: rest => (c :: part) :: rest) [[]]

/-- Check a colour by its three components, digits of any script. -/
def checkComponents (cs : List Char) : Except StyleFault Unit := do
  let components := splitCommas cs
  if components.length ≠ 3 then .error .unknownWord
  else
    let values ← components.mapM fun component =>
      (Number.ofNumeral 10 (String.ofList component)).mapError fun _ => StyleFault.notNumber
    if values.all (· ≤ 255) then .ok () else .error .unknownWord

/-- The name of a colour in lower case. -/
def colourOf (word : List Char) : Except StyleFault String :=
  let cs := (Text.lowerCase (String.ofList word)).toList
  if colours.contains cs || isHexColour cs || isNumberedColour cs then .ok (String.ofList cs)
  else match between? "rgb(" cs with
    | some inside =>
      if !inside.isEmpty &&
          inside.all fun c => c == ',' || (Text.decimalValue? c).isSome || c.isDigit then
        (checkComponents inside).map fun _ => String.ofList cs
      else .error .unknownWord
    | none => .error .unknownWord

/-! ## Attributes -/

/-- The attributes with their short names, in the order in which a style lists them. -/
def attributeNames : List (String × List String) :=
  [("bold", ["b"]), ("dim", ["d"]), ("italic", ["i"]), ("underline", ["u"]), ("blink", []),
    ("blink2", []), ("reverse", ["r"]), ("conceal", ["c"]), ("strike", ["s"]),
    ("underline2", ["uu"]), ("frame", []), ("encircle", []), ("overline", ["o"])]

/-- The attribute with a name or short name. -/
def attribute? (word : String) : Option String :=
  (attributeNames.find? fun (name, short) => name == word || short.contains word).map (·.1)

namespace Style

/-- Switch an attribute on or off. -/
def setting (style : Style) (name : String) (on : Bool) : Style :=
  { style with attributes := (name, on) :: style.attributes }

/-- The style that words describe, after what has been read of it. A word that sets a colour,
background or link takes the place of an earlier one. -/
def ofWordsAfter (style : Style) : List (List Char) → Except StyleFault Style
  | [] => .ok style
  | word :: rest =>
    match Text.lowerCase (String.ofList word), rest with
    | "on", colour :: rest => do
      ofWordsAfter { style with background := some (← colourOf colour) } rest
    | "not", word :: rest =>
      match attribute? (String.ofList word) with
      | some name => ofWordsAfter (style.setting name false) rest
      | none => .error .unknownWord
    | "link", address :: rest => ofWordsAfter { style with link := some (String.ofList address) } rest
    | lowered, rest =>
      if ["on", "not", "link"].contains lowered then .error .unknownWord
      else match attribute? lowered with
        | some name => ofWordsAfter (style.setting name true) rest
        | none => do ofWordsAfter { style with colour := some (← colourOf lowered.toList) } rest

/-- The style that words describe; the word `none` by itself describes the empty one. -/
def ofWords (words : List (List Char)) : Except StyleFault Style :=
  if words = ["none".toList] then .ok {} else ofWordsAfter {} words

/-- The words of a style in order. -/
def name (style : Style) : String :=
  let switched := attributeNames.filterMap fun (name, _) =>
    (style.attributes.lookup name).map fun on => if on then name else "not " ++ name
  let parts := switched ++ style.colour.toList ++
    (style.background.toList.map ("on " ++ ·)) ++ (style.link.toList.map ("link " ++ ·))
  if parts.isEmpty then "none" else " ".intercalate parts

/-- The name under which a text is known as a style: that of the style it describes, or else the text
itself in lower case. Only a number that is none is a fault. -/
def nameOf (cs : List Char) : Except StyleFault String :=
  match ofWords (words cs) with
  | .ok style => .ok style.name
  | .error .unknownWord => .ok (Text.lowerCase (String.ofList (Text.trim Text.isBlank cs)))
  | .error .notNumber => .error .notNumber

end Style

end HttpSuite.Markup
