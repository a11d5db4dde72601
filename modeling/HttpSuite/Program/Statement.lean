import HttpSuite.Number.Numeral
import HttpSuite.Program

/-!
# Statements as written

Between the tokens and the tree stand the statements of each block in source order, made of the
tokens that carry content. Turning them into the tree reads the integers and verbs; it happens once a
whole script is known to follow the grammar, and reports the first token, in source order, that cannot
be read.
-/

namespace HttpSuite

/-- One statement of a block, by its content tokens. -/
inductive Statement
  | request (method path : Token)
  | statusEquals (code : Token)
  | statusInRange (min max : Token)
  | bodyContains (text : Token)
  | headerEquals (name value : Token)
  deriving DecidableEq, Repr

/-- One block as written. -/
structure Block where
  name : Token
  statements : List Statement
  deriving DecidableEq, Repr

/-- Why a token of an accepted script has no value. -/
inductive UnreadableToken
  | integer (text : String) (fault : Number.NumeralFault)
  | method (text : String)
  deriving DecidableEq, Repr

/-- The longest quotation of a numeral that is no integer. -/
def maxQuotedNumeral : Nat := 200

/-- The wording for a token without a value. -/
def UnreadableToken.message : UnreadableToken → String
  | .integer _ (.tooLong digits) =>
    "Error trying to process rule \"INTEGER\":\n\nExceeds the limit (" ++ toString Number.maxDigits ++
      " digits) for integer string conversion: value has " ++ toString digits ++
      " digits; use sys.set_int_max_str_digits() to increase the limit"
  | .integer text .malformed =>
    let quoted := "Token('INTEGER', " ++ Text.shown text ++ ")"
    "Error trying to process rule \"INTEGER\":\n\ninvalid literal for int() with base 10: " ++
      String.ofList (quoted.toList.take maxQuotedNumeral)
  | .method text =>
    "Error trying to process rule \"method\":\n\n" ++ Text.shown text ++ " is not a valid HttpMethod"

/-- The content of a string token: its text without the first and the last character. -/
def Token.unquoted (token : Token) : String :=
  String.ofList (token.text.toList.drop 1).dropLast

/-- The integer that a token denotes. -/
def Token.integer (token : Token) : Except UnreadableToken Int :=
  match Number.ofNumeral 10 token.text with
  | .ok value => .ok value
  | .error fault => .error (.integer token.text fault)

/-- The verb that a token denotes. -/
def Token.method (token : Token) : Except UnreadableToken Method :=
  match Method.ofText? token.text with
  | some method => .ok method
  | none => .error (.method token.text)

namespace Statement

/-- What a statement says: a request or an assertion. -/
def content : Statement → Except UnreadableToken (Request ⊕ Assertion)
  | .request method path => do
    let method ← method.method
    return .inl ⟨method, path.unquoted⟩
  | .statusEquals code => do
    let code ← code.integer
    return .inr (.statusEquals code)
  | .statusInRange min max => do
    let min ← min.integer
    let max ← max.integer
    return .inr (.statusInRange min max)
  | .bodyContains text => return .inr (.bodyContains text.unquoted)
  | .headerEquals name value => return .inr (.headerEquals name.unquoted value.unquoted)

end Statement

/-- The test that a block denotes: its requests and its assertions, each in source order. -/
def Block.test (block : Block) : Except UnreadableToken TestBlock := do
  let contents ← block.statements.mapM Statement.content
  return ⟨block.name.text, contents.filterMap Sum.getLeft?, contents.filterMap Sum.getRight?⟩

/-- The program that a list of blocks denotes. -/
def Program.ofBlocks (blocks : List Block) : Except UnreadableToken Program := do
  let tests ← blocks.mapM Block.test
  return ⟨tests⟩

end HttpSuite
