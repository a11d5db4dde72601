import HttpSuite.Console.Emoji.Names
import HttpSuite.Text.Blank
import HttpSuite.Text.LowerCase

/-!
# Emoji codes

On the console a name between colons, without blanks, stands for an emoji. The end of the name may ask
for one of the two forms that an emoji can have. Names that are not known are left as they are.

- `Emoji.replace`: a text with its emoji.
-/

namespace HttpSuite.Emoji

/-- Words of a text, which blanks and line feeds divide. -/
def wordsOf (cs : List Char) : List String :=
  ((cs.foldr (fun c words =>
    if c == ' ' || c == '\n' then [] :: words
    else match words with
      | [] => [[c]]
      | word :: rest => (c :: word) :: rest) [[]]).filter (!·.isEmpty)).map String.ofList

/-- Words by twos. -/
def pairsOf : List String → List (String × String)
  | name :: emoji :: rest => (name, emoji) :: pairsOf rest
  | _ => []

/-- The names and their emoji. -/
def codes : List (String × String) :=
  pairsOf (wordsOf names.toList)

/-- The ends of names that ask for a form, and the character that selects it. -/
def forms : List (String × Char) :=
  [("-emoji", '\ufe0f'), ("-text", '\ufe0e')]

/-- The emoji of a name without a form, in any case. -/
def plain? (name : List Char) : Option (List Char) :=
  (codes.lookup (Text.lowerCase (String.ofList name))).map String.toList

/-- The emoji that a name between colons stands for. -/
def emoji? (name : List Char) : Option (List Char) :=
  match forms.find? fun (ending, _) => ending.toList.isSuffixOf name with
  | some (ending, form) => (plain? (name.take (name.length - ending.length))).map (· ++ [form])
  | none => plain? name

/-- The name at the start of a text, if a colon follows it without a blank. -/
def name? (cs : List Char) : Option (List Char) :=
  let name := cs.takeWhile fun c => c != ':' && !Text.isBlank c
  if (cs.drop name.length).head? = some ':' then some name else none

/-- Put the emoji of a text in the place of their names. -/
def replace (cs : List Char) : List Char :=
  match cs with
  | [] => []
  | c :: rest =>
    if c == ':' then
      match name? rest with
      | none => c :: replace rest
      | some name =>
        (emoji? name).getD (c :: name ++ [':']) ++ replace (rest.drop (name.length + 1))
    else c :: replace rest
termination_by cs.length
decreasing_by all_goals (simp only [List.length_cons, List.length_drop]; omega)

end HttpSuite.Emoji
