import HttpSuite.Compile
import HttpSuite.Proofs.Alternatives
import HttpSuite.Proofs.Lexing

/-!
# Relocation

Places say where something stands and decide nothing:

* **lexing** — two lexings of one text from different places agree up to their places (`scan_agree`):
  a move that is in step with the characters commutes with lexing (`scan_relocate`), and without its
  places a stream is the same from everywhere (`scan_forget`);
* **reading** — every move of places commutes with one step of the reader (`step_relocate`), hence
  with a run of it (`feed_relocate`);
* **values** — what blocks denote is the same at all places (`ofBlocks_relocate`).

So the tree or the failure of a stream moves with it (`parse_relocate`).
-/

namespace HttpSuite

open Grammar Lexing

/-! ## Streams -/

/-- A token moved to another place. -/
def Token.relocate (move : Position → Position) (token : Token) : Token :=
  { token with position := move token.position }

def LexFault.relocate (move : Position → Position) (fault : LexFault) : LexFault :=
  { fault with position := move fault.position }

def Ending.relocate (move : Position → Position) : Ending → Ending
  | .eof position => .eof (move position)
  | .fault found => .fault (found.relocate move)

/-- A stream with everything moved to other places. -/
def Stream.relocate (move : Position → Position) (stream : Stream) : Stream :=
  ⟨stream.tokens.map (Token.relocate move), stream.ending.relocate move⟩

theorem relocate_push (move : Position → Position) (kind : Option Kind) (text : String)
    (position : Position) (stream : Stream) :
    (stream.push (kind.map fun kind => ⟨kind, text, position⟩)).relocate move =
      (stream.relocate move).push (kind.map fun kind => ⟨kind, text, move position⟩) := by
  cases kind <;> rfl

theorem ofText_relocate (move : Position → Position) (position : Position) (cs : List Char) :
    (LexFault.ofText position cs).relocate move = LexFault.ofText (move position) cs := by
  rw [LexFault.ofText, LexFault.ofText]
  split <;> rfl

section Agreement

variable {first second : Position → Position} {cs : List Char}

/-- Moves that agree, and that go on to agree with every character, agree behind a run. -/
theorem after_agree (h : ∀ c ∈ cs, ∀ p q, first p = second q → first (p.next c) = second (q.next c))
    {p q : Position} (start : first p = second q) :
    first (p.after cs) = second (q.after cs) := by
  induction cs generalizing p q with
  | nil => exact start
  | cons c cs ih =>
    rw [List.forall_mem_cons] at h
    exact ih h.2 (h.1 p q start)

/-- Lexings of one text from two places: what moves the places of the one to those of the other moves
the one stream to the other. -/
theorem scan_agree (h : ∀ c ∈ cs, ∀ p q, first p = second q → first (p.next c) = second (q.next c))
    {p q : Position} (start : first p = second q) :
    (Stream.scan p cs).relocate first = (Stream.scan q cs).relocate second := by
  fun_induction Stream.scan p cs generalizing q with
  | case1 p cs empty =>
    obtain rfl := List.isEmpty_iff.1 empty
    rw [scan_stuck rfl]
    show Stream.mk [] (.eof (first p)) = Stream.mk [] (.eof (second q))
    rw [start]
  | case2 p cs nonempty stuck =>
    rw [scan_stuck stuck, if_neg nonempty]
    show Stream.mk [] (.fault _) = Stream.mk [] (.fault _)
    rw [ofText_relocate, ofText_relocate, start]
  | case3 p cs nonempty piece cut ih =>
    have whole := Piece.first_append cut
    rw [← whole, List.forall_mem_append] at h
    rw [scan_cut q (cuts_of_first cut), relocate_push, relocate_push, start,
      ih h.2 (after_agree h.1 start)]

end Agreement

theorem relocate_id (stream : Stream) : stream.relocate id = stream := by
  obtain ⟨tokens, ending⟩ := stream
  have same : tokens.map (Token.relocate id) = tokens := List.map_id tokens
  rw [Stream.relocate, same]
  cases ending <;> rfl

/-- Lexing from another place gives the same stream at other places. -/
theorem scan_relocate {move : Position → Position} {cs : List Char}
    (h : ∀ c ∈ cs, ∀ p, move (p.next c) = (move p).next c) (position : Position) :
    Stream.scan (move position) cs = (Stream.scan position cs).relocate move := by
  have step : ∀ c ∈ cs, ∀ p q, move p = id q → move (p.next c) = id (q.next c) := by
    rintro c hc p _ rfl
    exact h c hc p
  have start : move position = id (move position) := rfl
  rw [scan_agree step start, relocate_id]

/-- Where lexing starts has no influence on what it finds. -/
theorem scan_forget (p q : Position) (cs : List Char) :
    (Stream.scan p cs).relocate (fun _ => .start) = (Stream.scan q cs).relocate fun _ => .start :=
  scan_agree (fun _ _ _ _ _ => rfl) rfl

/-! ## States of the reader -/

def Statement.relocate (move : Position → Position) : Statement → Statement
  | .request method path => .request (method.relocate move) (path.relocate move)
  | .statusEquals code => .statusEquals (code.relocate move)
  | .statusInRange min max => .statusInRange (min.relocate move) (max.relocate move)
  | .bodyContains text => .bodyContains (text.relocate move)
  | .headerEquals name value => .headerEquals (name.relocate move) (value.relocate move)

def Block.relocate (move : Position → Position) (block : Block) : Block :=
  ⟨block.name.relocate move, block.statements.map (Statement.relocate move)⟩

def Progress.relocate (move : Position → Position) : Progress → Progress
  | .path method => .path (method.relocate move)
  | .range min => .range (min.relocate move)
  | .high min => .high (min.relocate move)
  | .headerEquals name => .headerEquals (name.relocate move)
  | .headerValue name => .headerValue (name.relocate move)
  | .complete statement => .complete (statement.relocate move)
  | progress => progress

def Place.relocate (move : Position → Position) : Place → Place
  | .top => .top
  | .name => .name
  | .brace title => .brace (title.relocate move)
  | .body title statements progress =>
    .body (title.relocate move) (statements.map (Statement.relocate move)) (progress.relocate move)

def State.relocate (move : Position → Position) (state : State) : State :=
  ⟨state.blocks.map (Block.relocate move), state.place.relocate move⟩

def SyntaxFault.relocate (move : Position → Position) (fault : SyntaxFault) : SyntaxFault :=
  { fault with actual := fault.actual.relocate move }

def ParseFailure.relocate (move : Position → Position) : ParseFailure → ParseFailure
  | .lexical fault => .lexical (fault.relocate move)
  | .grammar fault => .grammar (fault.relocate move)
  | .value token => .value token

section Reading

variable (move : Position → Position)

theorem Grammar.Moves.relocate {progress next : Progress} {token : Token}
    (h : Moves progress token next) :
    Moves (progress.relocate move) (token.relocate move) (next.relocate move) := by
  cases h <;> constructor <;> assumption

theorem Grammar.Steps.relocate {state next : State} {token : Token} (h : Steps state token next) :
    Steps (state.relocate move) (token.relocate move) (next.relocate move) := by
  cases h with
  | test hk => exact .test hk
  | name hk => exact .name hk
  | openBrace hk => exact .openBrace hk
  | @closeBrace blocks name statements _ hk =>
    rw [State.relocate, State.relocate, List.map_append]
    exact .closeBrace hk
  | @semicolon blocks name statements statement _ hk =>
    rw [State.relocate, State.relocate, Place.relocate, Place.relocate, List.map_append]
    exact .semicolon hk
  | within hm => exact .within (hm.relocate move)

theorem expected_relocate (state : State) : (state.relocate move).expected = state.expected := by
  obtain ⟨blocks, place⟩ := state
  cases place with
  | body name statements progress => cases progress <;> rfl
  | _ => rfl

/-- One token further, at other places. -/
theorem step_relocate (state : State) (token : Token) :
    (state.relocate move).step (token.relocate move) =
      (state.step token).map (State.relocate move) := by
  cases step : state.step token with
  | some next => exact state_step_iff.2 ((state_step_iff.1 step).relocate move)
  | none =>
    -- the kinds that a step accepts are the same at other places
    rw [Option.map_none, Option.eq_none_iff_forall_ne_some]
    intro next other
    obtain ⟨expected, inside⟩ := step_isSome_iff.1 ⟨next, other⟩
    rw [expected_relocate] at expected
    obtain ⟨found, some⟩ := (@step_isSome_iff state token).2 ⟨expected, inside⟩
    rw [step] at some
    cases some

/-- A run over tokens, at other places. -/
theorem feed_relocate (state : State) (tokens : List Token) :
    (state.relocate move).feed (tokens.map (Token.relocate move)) =
      match state.feed tokens with
      | .ok next => .ok (next.relocate move)
      | .error fault => .error (fault.relocate move) := by
  induction tokens generalizing state with
  | nil => rfl
  | cons token tokens ih =>
    rw [List.map_cons, State.feed, State.feed, step_relocate]
    cases state.step token with
    | some next => exact ih next
    | none =>
      show Except.error (SyntaxFault.mk _ _) = _
      rw [expected_relocate]
      rfl

theorem finish_relocate (state : State) (last : Token) :
    (state.relocate move).finish (last.relocate move) =
      match state.finish last with
      | .ok blocks => .ok (blocks.map (Block.relocate move))
      | .error fault => .error (fault.relocate move) := by
  have final : (state.relocate move).isFinal = state.isFinal := by
    obtain ⟨blocks, place⟩ := state
    cases place <;> rfl
  rw [State.finish, State.finish, final, expected_relocate]
  split <;> rfl

/-! ## Values -/

theorem content_relocate (statement : Statement) :
    (statement.relocate move).content = statement.content := by
  cases statement <;> rfl

theorem test_relocate (block : Block) : (block.relocate move).test = block.test := by
  have contents : Statement.content ∘ Statement.relocate move = Statement.content :=
    funext (content_relocate move)
  rw [Block.test, Block.test, Block.relocate, List.mapM_map, contents]
  rfl

/-- What blocks denote does not depend on places. -/
theorem ofBlocks_relocate (blocks : List Block) :
    Program.ofBlocks (blocks.map (Block.relocate move)) = Program.ofBlocks blocks := by
  have tests : Block.test ∘ Block.relocate move = Block.test := funext (test_relocate move)
  rw [Program.ofBlocks, Program.ofBlocks, List.mapM_map, tests]

/-! ## Whole streams -/

/-- The outcome of a stream at other places is its outcome at other places. -/
theorem parse_relocate (stream : Stream) :
    (stream.relocate move).parse = stream.parse.mapError (ParseFailure.relocate move) := by
  obtain ⟨tokens, ending⟩ := stream
  have fed := feed_relocate move .initial tokens
  change State.initial.feed (tokens.map (Token.relocate move)) = _ at fed
  rw [Stream.parse, Stream.parse, Stream.relocate, fed]
  cases State.initial.feed tokens with
  | error fault => rfl
  | ok state =>
    cases ending with
    | fault fault => rfl
    | eof position =>
      have finished := finish_relocate move state (.endOfInput position)
      show readBlocks ((state.relocate move).finish ((Token.endOfInput position).relocate move)) =
        (readBlocks (state.finish (.endOfInput position))).mapError _
      rw [finished]
      cases state.finish (.endOfInput position) with
      | error fault => rfl
      | ok blocks =>
        show (Program.ofBlocks (blocks.map (Block.relocate move))).mapError _ =
          ((Program.ofBlocks blocks).mapError _).mapError _
        rw [ofBlocks_relocate]
        cases Program.ofBlocks blocks <;> rfl

end Reading

end HttpSuite
