import HttpSuite.Program.Statement
import HttpSuite.Token.Stream

/-!
# The grammar of test scripts

A script is a sequence of blocks `test Name { … }`, a block a sequence of statements, each ended by a
semicolon:

    METHOD "path";
    expect status = code;            expect body contains "text";
    expect status in min..max;       expect header "name" = "value";

No construct nests in itself, so a script is read by stepping a state over its tokens. A state knows
the blocks read so far, the one being read and how far its current statement has come; it knows the
kinds of token that can follow, and a step succeeds exactly for those.

- `State.step`: one token further.
- `State.expected`: the kinds that a step accepts, with the end of input where a script may end.
- `parseTokens`, `parse`: the tree of a token list, of a text.
-/

namespace HttpSuite

/-- How far a statement has come. -/
inductive Progress
  /-- Before a statement, where the block may also end. -/
  | ready
  | path (method : Token)
  | expect
  | status
  | code
  | low
  | range (min : Token)
  | high (min : Token)
  | contains
  | bodyText
  | headerName
  | headerEquals (name : Token)
  | headerValue (name : Token)
  /-- Only the semicolon is missing. -/
  | complete (statement : Statement)
  deriving DecidableEq, Repr

namespace Progress

/-- The kinds that can come next. -/
def expected : Progress → List Kind
  | .ready =>
    [.method .delete, .method .get, .method .post, .method .put, .keyword .expect, .mark .closeBrace]
  | .path _ => [.string]
  | .expect => [.keyword .body, .keyword .header, .keyword .status]
  | .status => [.mark .equals, .keyword .within]
  | .code => [.integer]
  | .low => [.integer]
  | .range _ => [.mark .range]
  | .high _ => [.integer]
  | .contains => [.keyword .contains]
  | .bodyText => [.string]
  | .headerName => [.string]
  | .headerEquals _ => [.mark .equals]
  | .headerValue _ => [.string]
  | .complete _ => [.mark .semicolon]

/-- The next token of a statement that has begun but is not complete. -/
def step (progress : Progress) (token : Token) : Option Progress :=
  match progress, token.kind with
  | .ready, .method _ => some (.path token)
  | .ready, .keyword .expect => some .expect
  | .path method, .string => some (.complete (.request method token))
  | .expect, .keyword .status => some .status
  | .expect, .keyword .body => some .contains
  | .expect, .keyword .header => some .headerName
  | .status, .mark .equals => some .code
  | .status, .keyword .within => some .low
  | .code, .integer => some (.complete (.statusEquals token))
  | .low, .integer => some (.range token)
  | .range min, .mark .range => some (.high min)
  | .high min, .integer => some (.complete (.statusInRange min token))
  | .contains, .keyword .contains => some .bodyText
  | .bodyText, .string => some (.complete (.bodyContains token))
  | .headerName, .string => some (.headerEquals token)
  | .headerEquals name, .mark .equals => some (.headerValue name)
  | .headerValue name, .string => some (.complete (.headerEquals name token))
  | _, _ => none

end Progress

/-- Where in a script the reader stands. -/
inductive Place
  /-- Between blocks. -/
  | top
  /-- After `test`. -/
  | name
  /-- After the name of a block. -/
  | brace (name : Token)
  /-- Inside the braces, with the statements already read. -/
  | body (name : Token) (statements : List Statement) (progress : Progress)
  deriving DecidableEq, Repr

/-- The blocks read so far and the place reached. -/
structure State where
  blocks : List Block
  place : Place
  deriving DecidableEq, Repr

namespace State

/-- Before the first token. -/
def initial : State := ⟨[], .top⟩

/-- The kinds that can come next. -/
def expected (state : State) : List Kind :=
  match state.place with
  | .top => [.keyword .test, .eof]
  | .name => [.identifier]
  | .brace _ => [.mark .openBrace]
  | .body _ _ progress => progress.expected

/-- One token further; none if the token cannot follow. -/
def step (state : State) (token : Token) : Option State :=
  match state.place, token.kind with
  | .top, .keyword .test => some { state with place := .name }
  | .name, .identifier => some { state with place := .brace token }
  | .brace name, .mark .openBrace => some { state with place := .body name [] .ready }
  | .body name statements .ready, .mark .closeBrace =>
    some ⟨state.blocks ++ [⟨name, statements⟩], .top⟩
  | .body name statements (.complete statement), .mark .semicolon =>
    some { state with place := .body name (statements ++ [statement]) .ready }
  | .body name statements progress, _ =>
    (progress.step token).map fun progress => { state with place := .body name statements progress }
  | _, _ => none

/-- Whether a script may end here. -/
def isFinal (state : State) : Bool :=
  state.place == .top

end State

/-- The first token that cannot follow, and the kinds that can. -/
structure SyntaxFault where
  actual : Token
  expected : List Kind
  deriving DecidableEq, Repr

/-- Step a state over tokens up to the first that cannot follow. -/
def State.feed (state : State) : List Token → Except SyntaxFault State
  | [] => .ok state
  | token :: rest =>
    match state.step token with
    | some next => next.feed rest
    | none => .error ⟨token, state.expected⟩

/-- The blocks of a script that ends at the given token. -/
def State.finish (state : State) (last : Token) : Except SyntaxFault (List Block) :=
  if state.isFinal then .ok state.blocks else .error ⟨last, state.expected⟩

/-- Why a text or a token list has no tree. -/
inductive ParseFailure
  | lexical (fault : LexFault)
  | grammar (fault : SyntaxFault)
  | value (token : UnreadableToken)
  deriving DecidableEq, Repr

/-- The tree of an accepted script. -/
def readBlocks (blocks : Except SyntaxFault (List Block)) : Except ParseFailure Program :=
  match blocks with
  | .error fault => .error (.grammar fault)
  | .ok blocks => (Program.ofBlocks blocks).mapError .value

/-- The place of the end of input in a token list that has no end token: after the last token. -/
def impliedEnd (tokens : List Token) : Position :=
  match tokens.getLast? with
  | none => .start
  | some last => ⟨last.position.line, last.position.column + last.text.length⟩

/-- The tree of a token list. Tokens after the first end token are not read, and a list without one
ends after its last token. -/
def parseTokens (tokens : List Token) : Except ParseFailure Program :=
  let front := tokens.takeWhile (·.kind != .eof)
  let last := (tokens.find? (·.kind == .eof)).getD (.endOfInput (impliedEnd front))
  readBlocks (State.initial.feed front >>= fun state => state.finish last)

/-- The tree of a stream. A token that cannot follow is reported before a fault of the text behind
it. -/
def Stream.parse (stream : Stream) : Except ParseFailure Program :=
  match State.initial.feed stream.tokens, stream.ending with
  | .error fault, _ => .error (.grammar fault)
  | .ok _, .fault fault => .error (.lexical fault)
  | .ok state, .eof position => readBlocks (state.finish (.endOfInput position))

/-- The tree of a text. -/
def parse (source : String) : Except ParseFailure Program :=
  (Stream.ofText source).parse

end HttpSuite
