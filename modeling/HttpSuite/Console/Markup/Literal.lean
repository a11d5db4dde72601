import HttpSuite.Number.Numeral
import HttpSuite.Text.WordCharacter

/-!
# Literals

A tag for an action may carry parameters. They are literals: numbers, texts and bytes, three named
constants, and tuples, sets and dictionaries of them; the members of a set and the keys of a dictionary
must be such that they can be looked up. Whether a text is a literal is all that matters here.

- `marksOf?`: the marks that a text consists of.
- `isLiteral`: whether a text is a literal.
- `hasParameters`: whether what follows the equals sign of a tag can be read.
-/

namespace HttpSuite.Markup

/-- A piece of a literal. -/
inductive Mark
  | number (imaginary : Bool)
  | text (bytes : Bool)
  | constant
  /-- The name of the empty set. -/
  | set
  | symbol (c : Char)
  deriving DecidableEq, Repr

/-! ## Numbers -/

/-- What follows a run of digits with single underscores between them, of which one has been read. -/
def afterDigits? (isDigit : Char → Bool) : List Char → Option (List Char)
  | [] => some []
  | '_' :: d :: rest => if isDigit d then afterDigits? isDigit rest else none
  | c :: rest =>
    if c == '_' then none else if isDigit c then afterDigits? isDigit rest else some (c :: rest)

/-- What follows digits, of which there must be one. -/
def digits? (isDigit : Char → Bool) : List Char → Option (List Char)
  | [] => none
  | c :: rest => if isDigit c then afterDigits? isDigit rest else none

/-- What follows the digits of a base other than ten, which an underscore may start. -/
def basedDigits? (base : Nat) (cs : List Char) : Option (List Char) :=
  digits? (Number.isDigitOf base) (if cs.head? = some '_' then cs.drop 1 else cs)

/-- Whether a character may not follow a number. -/
def joinsNumber (c : Char) : Bool :=
  c.isAlphanum || c == '_' || 0x80 ≤ c.toNat

/-- A number, once it has been read up to a rest. -/
def ended? (imaginary : Bool) (rest : List Char) : Option (Mark × List Char) :=
  if rest.head?.any joinsNumber then none else some (.number imaginary, rest)

/-- The rest of a decimal after its digits and point: an exponent and the mark of an imaginary number.
`whole` if neither point nor exponent have been read, and then the digits must be fit for an integer. -/
def decimalEnd? (whole fit : Bool) (cs : List Char) : Option (Mark × List Char) := do
  let (whole, rest) ← match cs with
    | e :: rest =>
      if e == 'e' || e == 'E' then do
        let signed := rest.head? = some '+' || rest.head? = some '-'
        let rest ← digits? Char.isDigit (if signed then rest.drop 1 else rest)
        some (false, rest)
      else some (whole, cs)
    | [] => some (whole, cs)
  if rest.head? = some 'j' || rest.head? = some 'J' then ended? true (rest.drop 1)
  else if whole && !fit then none
  else ended? false rest

/-- The rest of a decimal after its whole part. -/
def decimalAfter? (fit : Bool) (cs : List Char) : Option (Mark × List Char) := do
  match cs with
  | '.' :: rest =>
    if rest.head?.any Char.isDigit then decimalEnd? false fit (← digits? Char.isDigit rest)
    else decimalEnd? false fit rest
  | cs => decimalEnd? true fit cs

/-- Whether the digits of an integer are fit: no zero in front of others, and not too many. -/
def isFit (digits : List Char) : Bool :=
  let digits := digits.filter (· != '_')
  (digits.head? != some '0' || digits.all (· == '0')) && digits.length ≤ Number.maxDigits

/-- A number. -/
def number? (cs : List Char) : Option (Mark × List Char) := do
  let base := match cs with
    | '0' :: letter :: _ => [2, 8, 16].find? fun base => Number.baseLetter? base == some letter.toLower
    | _ => none
  match base, cs with
  | some base, _ => ended? false (← basedDigits? base (cs.drop 2))
  | none, '.' :: _ => decimalAfter? true cs
  | none, _ =>
    let rest ← digits? Char.isDigit cs
    decimalAfter? (isFit (cs.take (cs.length - rest.length))) rest

/-! ## Texts -/

/-- Whether a text starts with a number of hexadecimal digits whose value is below a bound. -/
def startsHex (count bound : Nat) (cs : List Char) : Bool :=
  let digits := cs.take count
  digits.length == count && digits.all (Number.isDigitOf 16) && Number.valueIn 16 digits < bound

/-- Whether what follows a backslash is in order: the numeric escapes must be complete. -/
def isEscape (bytes : Bool) : List Char → Bool
  | 'x' :: rest => startsHex 2 0x100 rest
  | 'u' :: rest => bytes || startsHex 4 0x10000 rest
  | 'U' :: rest => bytes || startsHex 8 0x110000 rest
  | 'N' :: rest => bytes || (rest.head? = some '\x7b' && rest.contains '\x7d')
  | [] => false
  | _ => true

/-- What follows a text in quotes, after its opening quote. -/
def afterQuoted? (bytes raw triple : Bool) (quote : Char) : List Char → Option (List Char)
  | [] => none
  | '\\' :: c :: rest =>
    if (raw || isEscape bytes (c :: rest)) && !(bytes && 0x80 ≤ c.toNat) then
      afterQuoted? bytes raw triple quote rest
    else none
  | c :: rest =>
    if c == '\\' then none
    else if c == quote then
      if !triple then some rest
      else if [quote, quote].isPrefixOf rest then some (rest.drop 2)
      else afterQuoted? bytes raw triple quote rest
    else if (!triple && (c == '\n' || c == '\r')) || (bytes && 0x80 ≤ c.toNat) then none
    else afterQuoted? bytes raw triple quote rest

/-- A text or bytes, after the letters in front of the quote. -/
def quoted? (bytes raw : Bool) : List Char → Option (Mark × List Char)
  | [] => none
  | quote :: rest =>
    let triple := [quote, quote].isPrefixOf rest
    (afterQuoted? bytes raw triple quote (if triple then rest.drop 2 else rest)).map
      (Mark.text bytes, ·)

/-- The letters that may stand in front of a quote: whether they make bytes, and whether a backslash
stands for itself. -/
def quoteLetters : List (String × Bool × Bool) :=
  [("", false, false), ("u", false, false), ("r", false, true), ("b", true, false),
    ("br", true, true), ("rb", true, true)]

/-- A text with its letters, or a name. -/
def word? (cs : List Char) : Option (Mark × List Char) :=
  let word := cs.takeWhile joinsNumber
  let rest := cs.drop word.length
  if rest.head? = some '\'' || rest.head? = some '"' then
    match quoteLetters.lookup (String.ofList (word.map Char.toLower)) with
    | some (bytes, raw) => quoted? bytes raw rest
    | none => none
  else
    match String.ofList word with
    | "True" | "False" | "None" => some (.constant, rest)
    | "set" => some (.set, rest)
    | _ => none

/-! ## Marks -/

/-- Whether nothing but blanks and comments is left. -/
def isBlankRest (comment : Bool) : List Char → Bool
  | [] => true
  | c :: rest =>
    if c == '\n' || c == '\r' then isBlankRest false rest
    else if comment || c == '#' then isBlankRest true rest
    else (c == ' ' || c == '\t' || c == '\x0c') && isBlankRest false rest

/-- The greatest number of brackets inside each other. -/
def maxNesting : Nat := 200

/-- The mark at the start of a text that is neither blank nor comment. -/
def mark? (cs : List Char) : Option (Mark × List Char) :=
  match cs with
  | '.' :: '.' :: '.' :: rest => some (.constant, rest)
  | c :: rest =>
    if c.isDigit || (c == '.' && rest.head?.any Char.isDigit) then number? cs
    else if "()\x7b\x7d,:+-".toList.contains c then some (.symbol c, rest)
    else word? cs
  | [] => none

/-- The number of open brackets after a mark. -/
def nesting (depth : Nat) : Mark → Nat
  | .symbol '(' | .symbol '\x7b' => depth + 1
  | .symbol ')' | .symbol '\x7d' => depth - 1
  | _ => depth

/-- The marks of a text. Outside brackets a line end is the end of the literal. -/
def marksFrom? : (fuel depth : Nat) → List Char → Option (List Mark)
  | 0, _, _ => none
  | _ + 1, _, [] => some []
  | fuel + 1, depth, c :: rest =>
    if c == ' ' || c == '\t' || c == '\x0c' then marksFrom? fuel depth rest
    else if c == '\n' || c == '\r' then
      if 0 < depth then marksFrom? fuel depth rest
      else if isBlankRest false rest then some [] else none
    else if c == '#' then
      marksFrom? fuel depth (rest.dropWhile fun c => c != '\n' && c != '\r')
    else do
      let (mark, rest) ← mark? (c :: rest)
      let depth := nesting depth mark
      if maxNesting < depth then none
      else return mark :: (← marksFrom? fuel depth rest)

/-- The marks of a text. -/
def marksOf? (cs : List Char) : Option (List Mark) :=
  if cs.contains '\x00' then none else marksFrom? (cs.length + 1) 0 cs

/-! ## Values -/

/-- What matters about a part of a literal. -/
inductive Part
  | number (imaginary : Bool)
  /-- A number with a sign. -/
  | signed (imaginary : Bool)
  /-- Any other value that can be looked up. -/
  | fixed
  /-- A value that cannot be looked up. -/
  | mutable
  deriving DecidableEq, Repr

/-- Several values together: they can be looked up if each can. -/
def Part.tuple (parts : List Part) : Part :=
  if parts.contains .mutable then .mutable else .fixed

/-- The texts at the start of marks, which count as one if all are of a kind. -/
def joined? (bytes : Bool) : List Mark → Option (List Mark)
  | .text other :: rest => if other == bytes then joined? bytes rest else none
  | marks => some marks

mutual

/-- Read a value: a single one, a number with a sign, or the sum of a real and an imaginary number. -/
def value? : (fuel : Nat) → List Mark → Option (Part × List Mark)
  | 0, _ => none
  | fuel + 1, marks => do
    let isSign (mark : Mark) : Bool := mark == .symbol '+' || mark == .symbol '-'
    let (part, rest) ←
      if marks.head?.any isSign then do
        match ← single? fuel (marks.drop 1) with
        | (.number imaginary, rest) => some (Part.signed imaginary, rest)
        | _ => none
      else single? fuel marks
    if rest.head?.any isSign then
      if part = .number false || part = .signed false then
        match ← single? fuel (rest.drop 1) with
        | (.number true, rest) => if rest.head?.any isSign then none else some (.fixed, rest)
        | _ => none
      else none
    else some (part, rest)

/-- Read a value without sign. -/
def single? : (fuel : Nat) → List Mark → Option (Part × List Mark)
  | 0, _ => none
  | fuel + 1, marks =>
    match marks with
    | .number imaginary :: rest => some (.number imaginary, rest)
    | .text bytes :: rest => (joined? bytes rest).map (Part.fixed, ·)
    | .constant :: rest => some (.fixed, rest)
    | .set :: .symbol '(' :: .symbol ')' :: rest => some (.mutable, rest)
    | .symbol '(' :: .symbol ')' :: rest => some (.fixed, rest)
    | .symbol '(' :: rest => do
      let (part, rest) ← values? fuel rest
      if rest.head? = some (.symbol ')') then some (part, rest.drop 1) else none
    | .symbol '\x7b' :: .symbol '\x7d' :: rest => some (.mutable, rest)
    | .symbol '\x7b' :: rest => do
      let (part, after) ← value? fuel rest
      if part = .mutable then none
      else if after.head? = some (.symbol ':') then entries? fuel rest
      else members? fuel rest
    | _ => none

/-- Read values with commas between them; a comma makes a tuple of them, also of a single one. -/
def values? : (fuel : Nat) → List Mark → Option (Part × List Mark)
  | 0, _ => none
  | fuel + 1, marks => do
    let (part, rest) ← value? fuel marks
    if rest.head? = some (.symbol ',') then
      let rest := rest.drop 1
      if rest.isEmpty || rest.head? = some (.symbol ')') then some (.tuple [part], rest)
      else
        let (more, rest) ← values? fuel rest
        some (.tuple [part, more], rest)
    else some (part, rest)

/-- Read the rest of a set. -/
def members? : (fuel : Nat) → List Mark → Option (Part × List Mark)
  | 0, _ => none
  | fuel + 1, marks => do
    match ← value? fuel marks with
    | (.mutable, _) => none
    | (_, .symbol '\x7d' :: rest) | (_, .symbol ',' :: .symbol '\x7d' :: rest) => some (.mutable, rest)
    | (_, .symbol ',' :: rest) => members? fuel rest
    | _ => none

/-- Read the rest of a dictionary. -/
def entries? : (fuel : Nat) → List Mark → Option (Part × List Mark)
  | 0, _ => none
  | fuel + 1, marks => do
    match ← value? fuel marks with
    | (.mutable, _) => none
    | (_, .symbol ':' :: rest) =>
      match ← value? fuel rest with
      | (_, .symbol '\x7d' :: rest) | (_, .symbol ',' :: .symbol '\x7d' :: rest) =>
        some (.mutable, rest)
      | (_, .symbol ',' :: rest) => entries? fuel rest
      | _ => none
    | _ => none

end

/-- Whether a text is a literal. -/
def isLiteral (cs : List Char) : Bool :=
  match marksOf? (cs.dropWhile fun c => c == ' ' || c == '\t') with
  | none => false
  | some marks =>
    match values? (4 * marks.length + 8) marks with
    | some (_, []) => true
    | _ => false

/-- Whether the parameters of an action can be read: a name, which may be followed by a literal in
parentheses, or a literal. -/
def hasParameters (cs : List Char) : Bool :=
  let cs := Text.trim Text.isBlank cs
  let rest := cs.dropWhile fun c => Text.isWordCharacter c || c == '.'
  rest.isEmpty ||
    isLiteral (if rest.head? = some '(' && rest.getLast? = some ')' && !rest.contains '\n' then rest
      else cs)

end HttpSuite.Markup
