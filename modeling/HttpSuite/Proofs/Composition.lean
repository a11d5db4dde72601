import HttpSuite.Proofs.LineByLine

/-!
# Composition

Scripts can be put one behind the other, with a line feed between them (`documents_compose`):

* **texts** — the stream of two texts is that of the first and then, if it has no fault, that of the
  second (`scan_append`), which is the stream of the second by itself, moved down (`scan_down`);
* **states** — blocks that have been read before stand in front of all that a run reads and have no
  influence on it (`feed_behind`, `finish_behind`);
* **streams** — so a stream that has a tree adds its tests in front of those of the stream behind it,
  and does nothing to its failures (`parse_andThen`).
-/

namespace HttpSuite

open Grammar Lexing

/-! ## Texts one behind the other -/

theorem andThen_assoc (first second third : Stream) :
    (first.andThen second).andThen third = first.andThen (second.andThen third) := by
  obtain ⟨tokens, ending⟩ := first
  obtain ⟨more, last⟩ := second
  cases ending with
  | fault fault => rfl
  | eof position => cases last <;> simp [Stream.andThen]

/-- The stream of two texts with a line feed between them. -/
theorem scan_append (front back : List Char) (position : Position) :
    Stream.scan position (front ++ '\n' :: back) =
      (Stream.scan position front).andThen (Stream.scan ((position.after front).next '\n') back) := by
  induction front using lines_induction generalizing position with
  | last line hl => exact scan_append_newline hl position back
  | more line rest hl ih =>
    have place : position.after (line ++ '\n' :: rest) =
        ((position.after line).next '\n').after rest := by
      rw [Position.after, List.foldl_append]
      rfl
    rw [List.append_assoc, List.cons_append, scan_append_newline hl, scan_append_newline hl, ih,
      andThen_assoc, place]

/-- The place a number of lines further down. -/
def Position.down (lines : Nat) (position : Position) : Position :=
  ⟨position.line + lines, position.column⟩

theorem next_down (lines : Nat) (position : Position) (c : Char) :
    (position.next c).down lines = (position.down lines).next c := by
  by_cases hc : c = '\n'
  · simp only [Position.next, Position.down, hc, if_true, Position.mk.injEq, and_true]
    omega
  · simp [Position.next, Position.down, hc]

/-- The first place behind a text and a line feed. -/
theorem start_after_newline (front : List Char) :
    (Position.start.after front).next '\n' = Position.start.down (front.count '\n' + 1) := by
  have start : Position.start = placeAfter [] := rfl
  have start_down : Position.start.down (front.count '\n' + 1) =
      ⟨1 + (front.count '\n' + 1 : Nat), 1⟩ := rfl
  rw [start_down, start, placeAfter_after, placeAfter_next]
  simp [placeAfter]

/-- A text is lexed further down as it is at the start. -/
theorem scan_down (lines : Nat) (cs : List Char) :
    Stream.scan (Position.start.down lines) cs =
      (Stream.scan .start cs).relocate (Position.down lines) :=
  scan_relocate (fun c _ position => next_down lines position c) .start

/-! ## Blocks read before -/

/-- A state behind blocks that have been read before. -/
def State.behind (blocks : List Block) (state : State) : State :=
  ⟨blocks ++ state.blocks, state.place⟩

section Behind

variable (blocks : List Block)

theorem Grammar.Steps.behind {state next : State} {token : Token} (h : Steps state token next) :
    Steps (state.behind blocks) token (next.behind blocks) := by
  cases h with
  | test hk => exact .test hk
  | name hk => exact .name hk
  | openBrace hk => exact .openBrace hk
  | closeBrace hk =>
    rw [State.behind, State.behind, ← List.append_assoc]
    exact .closeBrace hk
  | semicolon hk => exact .semicolon hk
  | within hm => exact .within hm

/-- One token further, behind blocks. -/
theorem step_behind (state : State) (token : Token) :
    (state.behind blocks).step token = (state.step token).map (State.behind blocks) := by
  cases step : state.step token with
  | some next => exact state_step_iff.2 ((state_step_iff.1 step).behind blocks)
  | none =>
    -- what is expected depends on the place alone
    rw [Option.map_none, Option.eq_none_iff_forall_ne_some]
    intro next other
    have expected := step_isSome_iff.1 ⟨next, other⟩
    obtain ⟨found, some⟩ := (@step_isSome_iff state token).2 expected
    rw [step] at some
    cases some

/-- A run over tokens, behind blocks. -/
theorem feed_behind (state : State) (tokens : List Token) :
    (state.behind blocks).feed tokens = (state.feed tokens).map (State.behind blocks) := by
  induction tokens generalizing state with
  | nil => rfl
  | cons token tokens ih =>
    rw [State.feed, State.feed, step_behind]
    cases state.step token with
    | some next => exact ih next
    | none => rfl

theorem finish_behind (state : State) (last : Token) :
    (state.behind blocks).finish last = (state.finish last).map (blocks ++ ·) := by
  have place : (state.behind blocks).place = state.place := rfl
  by_cases final : state.place = .top
  · rw [finish_of_final (place.trans final), finish_of_final final]
    rfl
  · rw [finish_of_not_final (place ▸ final), finish_of_not_final final]
    rfl

end Behind

/-! ## Trees one behind the other -/

/-- A program with the tests of another behind its own. -/
def Program.append (front back : Program) : Program :=
  ⟨front.tests ++ back.tests⟩

theorem ofBlocks_append {front : List Block} {program : Program}
    (h : Program.ofBlocks front = .ok program) (back : List Block) :
    Program.ofBlocks (front ++ back) = (Program.ofBlocks back).map program.append := by
  obtain ⟨tests, read, built⟩ := exists_of_bind_ok h
  obtain rfl := Except.ok.inj built
  rw [Program.ofBlocks, List.mapM_append, read, Program.ofBlocks]
  cases back.mapM Block.test <;> rfl

theorem readBlocks_append {front : List Block} {program : Program}
    (h : Program.ofBlocks front = .ok program) (result : Except SyntaxFault (List Block)) :
    readBlocks (result.map (front ++ ·)) = (readBlocks result).map program.append := by
  cases result with
  | error fault => rfl
  | ok back =>
    show (Program.ofBlocks (front ++ back)).mapError _ = ((Program.ofBlocks back).mapError _).map _
    rw [ofBlocks_append h]
    cases Program.ofBlocks back <;> rfl

/-- A stream with a tree is read through to a place between blocks. -/
theorem exists_of_stream_parse {stream : Stream} {program : Program}
    (h : stream.parse = .ok program) :
    ∃ position blocks, stream.ending = .eof position ∧
      State.initial.feed stream.tokens = .ok ⟨blocks, .top⟩ ∧
      Program.ofBlocks blocks = .ok program := by
  obtain ⟨tokens, ending⟩ := stream
  rw [Stream.parse] at h
  split at h
  · cases h
  · cases h
  · rename_i state position fed ends
    obtain ⟨blocks, finished, read⟩ := readBlocks_ok_iff.1 h
    rw [finish_ok_iff.1 finished] at fed
    exact ⟨position, blocks, ends, fed, read⟩

/-- A stream behind one that has a tree. -/
theorem parse_andThen {front : Stream} {program : Program} (h : front.parse = .ok program)
    (back : Stream) : (front.andThen back).parse = back.parse.map program.append := by
  obtain ⟨position, blocks, ends, fed, read⟩ := exists_of_stream_parse h
  have behind : State.mk blocks .top = State.initial.behind blocks := by
    rw [State.behind, State.initial, List.append_nil]
  have whole : State.initial.feed (front.tokens ++ back.tokens) =
      (State.initial.feed back.tokens).map (State.behind blocks) := by
    rw [feed_append fed, behind, feed_behind]
  rw [Stream.andThen, ends, Stream.parse, Stream.parse, whole]
  cases State.initial.feed back.tokens with
  | error fault => rfl
  | ok state =>
    cases back.ending with
    | fault fault => rfl
    | eof last =>
      show readBlocks ((state.behind blocks).finish (.endOfInput last)) = _
      rw [finish_behind, readBlocks_append read]

/-! ## Scripts one behind the other -/

/-- A text behind one that has a tree and a line feed: its tests follow, its failures are those of the
text by itself, moved down. -/
theorem parse_append_newline {first : String} {program : Program} (h : parse first = .ok program)
    (second : String) :
    parse (first ++ "\n" ++ second) =
      ((parse second).mapError (.relocate (.down (first.toList.count '\n' + 1)))).map
        program.append := by
  have chars : (first ++ "\n" ++ second).toList = first.toList ++ '\n' :: second.toList := by
    simp
  have stream : Stream.ofText (first ++ "\n" ++ second) = (Stream.ofText first).andThen
      ((Stream.ofText second).relocate (.down (first.toList.count '\n' + 1))) := by
    rw [Stream.ofText, chars, scan_append, start_after_newline, scan_down]
    rfl
  rw [parse, stream, parse_andThen h, parse_relocate]
  rfl

/-- **Scripts compose.** Behind a script that can be parsed and a line feed, a text that can be parsed
adds its tests, a fault of the text or of the grammar is reported as in the text by itself, further
down by the lines in front of it, and a token without a value is reported as it is. -/
theorem documents_compose {first : String} {program : Program} (h : parse first = .ok program)
    (second : String) :
    (∀ rest, parse second = .ok rest →
      parse (first ++ "\n" ++ second) = .ok ⟨program.tests ++ rest.tests⟩) ∧
    (∀ position offending reason, parse second = .error (.lexical ⟨position, offending, reason⟩) →
      parse (first ++ "\n" ++ second) = .error (.lexical
        ⟨⟨position.line + (first.toList.count '\n' + 1), position.column⟩, offending, reason⟩)) ∧
    (∀ kind text position expected,
      parse second = .error (.grammar ⟨⟨kind, text, position⟩, expected⟩) →
      parse (first ++ "\n" ++ second) = .error (.grammar
        ⟨⟨kind, text, ⟨position.line + (first.toList.count '\n' + 1), position.column⟩⟩,
          expected⟩)) ∧
    ∀ token, parse second = .error (.value token) →
      parse (first ++ "\n" ++ second) = .error (.value token) := by
  rw [parse_append_newline h]
  refine ⟨?_, ?_, ?_, ?_⟩
  · intro rest parsed
    rw [parsed]
    rfl
  · intro position offending reason failed
    rw [failed]
    rfl
  · intro kind text position expected failed
    rw [failed]
    rfl
  · intro token failed
    rw [failed]
    rfl

/-- Behind a script that ends in a comment with a quote in it: a block that is not closed, and an open
string. -/
theorem documents_compose_behind_comment :
    parse "test A \x7b GET \"/\"; \x7d\n// \"" = .ok ⟨[⟨"A", [⟨.get, "/"⟩], []⟩]⟩ ∧
    parse ("test A \x7b GET \"/\"; \x7d\n// \"" ++ "\n" ++ "test B \x7b GET") =
      .error (.grammar ⟨⟨.eof, "", ⟨3, 13⟩⟩, [.string]⟩) ∧
    parse ("test A \x7b GET \"/\"; \x7d\n// \"" ++ "\n" ++ "\ntest \"") =
      .error (.lexical ⟨⟨4, 6⟩, "\"", .unterminatedString⟩) := by
  have front : parse "test A \x7b GET \"/\"; \x7d\n// \"" = .ok ⟨[⟨"A", [⟨.get, "/"⟩], []⟩]⟩ := by
    decide +kernel
  have lines : "test A \x7b GET \"/\"; \x7d\n// \"".toList.count '\n' = 1 := by
    decide
  refine ⟨front, ?_, ?_⟩
  · have composed := (documents_compose front "test B \x7b GET").2.2.1 .eof "" ⟨1, 13⟩ [.string]
    rw [lines] at composed
    exact composed (by decide +kernel)
  · have composed := (documents_compose front "\ntest \"").2.1 ⟨2, 6⟩ "\"" .unterminatedString
    rw [lines] at composed
    exact composed (by decide +kernel)

end HttpSuite
