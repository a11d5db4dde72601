import HttpSuite.Text.Shown

/-!
# Tokens

The closed set of token kinds of a test script, and tokens themselves: a kind, the text it was read
from and the place of its first character. Lines and columns count from one, and columns count
characters.
-/

namespace HttpSuite

/-- The verb of a request. -/
inductive Method
  | get
  | post
  | put
  | delete
  deriving DecidableEq, Repr, Inhabited

/-- The spelling of a verb, in scripts and in generated code. -/
def Method.text : Method → String
  | .get => "GET"
  | .post => "POST"
  | .put => "PUT"
  | .delete => "DELETE"

/-- The verbs in the order in which messages list them. -/
def Method.all : List Method := [.get, .post, .put, .delete]

/-- The verb with a given spelling. -/
def Method.ofText? (text : String) : Option Method :=
  Method.all.find? (·.text == text)

/-- The reserved words other than the verbs. -/
inductive Keyword
  | test
  | expect
  | status
  | body
  | contains
  | header
  | within
  deriving DecidableEq, Repr

/-- The spelling of a reserved word. -/
def Keyword.text : Keyword → String
  | .test => "test"
  | .expect => "expect"
  | .status => "status"
  | .body => "body"
  | .contains => "contains"
  | .header => "header"
  | .within => "in"

/-- The punctuation marks. -/
inductive Mark
  | openBrace
  | closeBrace
  | semicolon
  | equals
  | range
  deriving DecidableEq, Repr

/-- The spelling of a punctuation mark. -/
def Mark.text : Mark → String
  | .openBrace => "\x7b"
  | .closeBrace => "\x7d"
  | .semicolon => ";"
  | .equals => "="
  | .range => ".."

/-- The name of a punctuation mark in token listings. -/
def Mark.name : Mark → String
  | .openBrace => "LBRACE"
  | .closeBrace => "RBRACE"
  | .semicolon => "SEMICOLON"
  | .equals => "EQUALS"
  | .range => "RANGE"

/-- The kinds of token. -/
inductive Kind
  | keyword (word : Keyword)
  | method (verb : Method)
  | identifier
  | string
  | integer
  | mark (punctuation : Mark)
  | eof
  deriving DecidableEq, Repr

namespace Kind

/-- Every kind, reserved words first and the end of input last. -/
def all : List Kind :=
  [.keyword .test, .keyword .expect, .keyword .status, .keyword .body, .keyword .contains,
    .keyword .header, .keyword .within, .method .get, .method .post, .method .put, .method .delete,
    .identifier, .string, .integer, .mark .openBrace, .mark .closeBrace, .mark .semicolon,
    .mark .equals, .mark .range, .eof]

/-- The name of a kind in token listings. -/
def name : Kind → String
  | .keyword word => match word with
    | .test => "TEST"
    | .expect => "EXPECT"
    | .status => "STATUS"
    | .body => "BODY"
    | .contains => "CONTAINS"
    | .header => "HEADER"
    | .within => "IN"
  | .method verb => verb.text
  | .identifier => "IDENTIFIER"
  | .string => "STRING"
  | .integer => "INTEGER"
  | .mark punctuation => punctuation.name
  | .eof => "EOF"

/-- The kind with a given name. -/
def ofName? (name : String) : Option Kind :=
  all.find? (·.name == name)

/-- The symbol of a kind in the grammar. Symbols that leave no trace in the tree start with an
underscore. -/
def symbol : Kind → String
  | .eof => "$END"
  | .keyword word => "_" ++ (Kind.keyword word).name
  | .mark punctuation => "_" ++ punctuation.name
  | kind => kind.name

/-- How a diagnostic speaks of a kind. -/
def display : Kind → String
  | .keyword word => "'" ++ word.text ++ "'"
  | .method verb => "'" ++ verb.text ++ "'"
  | .identifier => "identifier"
  | .string => "string literal"
  | .integer => "integer literal"
  | .mark punctuation => "'" ++ punctuation.text ++ "'"
  | .eof => "end of input"

/-- Whether a kind is a reserved word other than a verb. -/
def isKeyword : Kind → Bool
  | .keyword _ => true
  | _ => false

/-- Whether a kind is a verb. -/
def isMethod : Kind → Bool
  | .method _ => true
  | _ => false

/-- Whether a kind is a punctuation mark. -/
def isPunctuation : Kind → Bool
  | .mark _ => true
  | _ => false

/-- The eleven words that are no identifiers, with their kinds. -/
def reserved : List (String × Kind) :=
  [(Keyword.test.text, .keyword .test), (Keyword.expect.text, .keyword .expect),
    (Keyword.status.text, .keyword .status), (Keyword.body.text, .keyword .body),
    (Keyword.contains.text, .keyword .contains), (Keyword.header.text, .keyword .header),
    (Keyword.within.text, .keyword .within), (Method.get.text, .method .get),
    (Method.post.text, .method .post), (Method.put.text, .method .put),
    (Method.delete.text, .method .delete)]

/-- The kind of a word: reserved exactly if the whole word is a reserved one. -/
def ofWord (word : String) : Kind :=
  (reserved.lookup word).getD .identifier

end Kind

/-- A place in a text. -/
structure Position where
  line : Int
  column : Int
  deriving DecidableEq, Repr

namespace Position

/-- The first character of a text. -/
def start : Position := ⟨1, 1⟩

/-- The place after a character that stands at a given place: only a line feed starts a line. -/
def next (p : Position) (c : Char) : Position :=
  if c = '\n' then ⟨p.line + 1, 1⟩ else ⟨p.line, p.column + 1⟩

/-- The place after a run of characters. -/
def after (p : Position) (cs : List Char) : Position :=
  cs.foldl next p

/-- A place as `line:column`. -/
def text (p : Position) : String :=
  toString p.line ++ ":" ++ toString p.column

end Position

/-- A classified run of characters. -/
structure Token where
  kind : Kind
  text : String
  position : Position
  deriving DecidableEq, Repr

/-- A token as a listing shows it. -/
def Token.listing (token : Token) : String :=
  token.kind.name ++ "(" ++ Text.shown token.text ++ ") at " ++ token.position.text

end HttpSuite
