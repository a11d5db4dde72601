import HttpSuite.Proofs.Composition
import HttpSuite.Proofs.FirstFailure

/-!
# Failures depend on the first lines

A failure that is not due to the end of a text stands at a place, and the lines below that place have
no part in it (`failure_of_first_lines`):

* **places** — such a failure is the fault of the text or the first token that cannot follow
  (`located_iff`), and lexing a text only goes down (`scan_below`);
* **streams** — so behind a stream a failure stays what it is (`located_andThen`), and one that
  stands above all that follows was there before (`located_of_andThen`);
* **lines** — hence a text fails as its first lines do by themselves (`parse_firstLines_iff`).
-/

namespace HttpSuite

open Grammar Lexing

/-! ## Places of failures -/

/-- Where a failure stands, unless it is due to the end of the text or to a value. -/
def ParseFailure.place? : ParseFailure → Option Position
  | .lexical fault => some fault.position
  | .grammar fault => if fault.actual.kind = .eof then none else some fault.actual.position
  | .value _ => none

section Located

variable {stream front back : Stream} {failure : ParseFailure} {position : Position} {line : Int}

/-- The failures with a place: a token that cannot follow, or the fault that ends a stream. -/
theorem located_iff (located : failure.place? = some position) :
    stream.parse = .error failure ↔
      (∃ fault, failure = .grammar fault ∧ State.initial.feed stream.tokens = .error fault) ∨
        ∃ fault state, failure = .lexical fault ∧ State.initial.feed stream.tokens = .ok state ∧
          stream.ending = .fault fault := by
  obtain ⟨tokens, ending⟩ := stream
  rw [Stream.parse]
  cases fed : State.initial.feed tokens with
  | error fault => simp [eq_comm]
  | ok state =>
    cases ending with
    | fault fault => simp [eq_comm]
    | eof last =>
      simp only [reduceCtorEq, and_false, exists_false, or_false, iff_false]
      -- what is left has no place: a token without a value, or the end
      intro failed
      by_cases final : state.place = .top
      · rw [finish_of_final final, readBlocks] at failed
        cases read : Program.ofBlocks state.blocks with
        | ok program => rw [read] at failed; cases failed
        | error token =>
          rw [read] at failed
          obtain rfl := Except.error.inj failed
          cases located
      · rw [finish_of_not_final final] at failed
        obtain rfl := Except.error.inj failed
        cases located

/-- Everything that a stream finds stands on a line or below it. -/
structure Stream.Below (line : Int) (stream : Stream) : Prop where
  tokens : ∀ token ∈ stream.tokens, line ≤ token.position.line
  ending : ∀ fault, stream.ending = .fault fault → line ≤ fault.position.line

theorem line_le_after (position : Position) (cs : List Char) :
    position.line ≤ (position.after cs).line := by
  induction cs generalizing position with
  | nil => exact Int.le_refl _
  | cons c cs ih =>
    have step : position.line ≤ (position.next c).line := by
      rw [Position.next]
      split
      · show position.line ≤ position.line + 1
        omega
      · exact Int.le_refl _
    exact Int.le_trans step (ih (position.next c))

/-- Lexing a text goes down. -/
theorem scan_below (position : Position) (cs : List Char) :
    (Stream.scan position cs).Below position.line := by
  fun_induction Stream.scan position cs with
  | case1 => exact ⟨by simp, by simp⟩
  | case2 position cs =>
    refine ⟨by simp, ?_⟩
    rintro fault ⟨⟩
    rw [LexFault.ofText]
    split <;> exact Int.le_refl _
  | case3 position cs nonempty piece first ih =>
    have down := line_le_after position piece.text
    refine ⟨?_, fun fault ending => Int.le_trans down (ih.ending fault ending)⟩
    intro token hm
    rcases List.mem_append.1 hm with hm | hm
    · obtain ⟨kind, -, rfl⟩ := Option.map_eq_some_iff.1 (Option.mem_toList.1 hm)
      exact Int.le_refl _
    · exact Int.le_trans down (ih.tokens token hm)

theorem feed_append_error {state : State} {tokens : List Token} {fault : SyntaxFault}
    (h : state.feed tokens = .error fault) (more : List Token) :
    state.feed (tokens ++ more) = .error fault := by
  induction tokens generalizing state with
  | nil => cases h
  | cons token tokens ih =>
    rw [List.cons_append, State.feed]
    rw [State.feed] at h
    cases step : state.step token with
    | some next =>
      rw [step] at h
      exact ih h
    | none =>
      rw [step] at h
      exact h

/-! ## Failures behind and in front -/

/-- What follows a failure that has a place does not change it. -/
theorem located_andThen (located : failure.place? = some position)
    (failed : front.parse = .error failure) : (front.andThen back).parse = .error failure := by
  cases ends : front.ending with
  | fault fault => rwa [Stream.andThen, ends]
  | eof last =>
    rw [located_iff located, ends] at failed
    rcases failed with ⟨fault, rfl, fed⟩ | ⟨fault, state, -, -, clash⟩
    · rw [located_iff located, Stream.andThen, ends]
      exact .inl ⟨fault, rfl, feed_append_error fed back.tokens⟩
    · cases clash

/-- A failure above all that follows a stream is one of the stream. -/
theorem located_of_andThen (located : failure.place? = some position)
    (failed : (front.andThen back).parse = .error failure) (below : back.Below line)
    (above : position.line < line) : front.parse = .error failure := by
  cases ends : front.ending with
  | fault fault => rwa [Stream.andThen, ends] at failed
  | eof last =>
    rw [located_iff located, Stream.andThen, ends] at failed
    rcases failed with ⟨fault, rfl, fed⟩ | ⟨fault, state, rfl, -, ending⟩
    · cases before : State.initial.feed front.tokens with
      | error earlier =>
        have same := Except.error.inj ((feed_append_error before back.tokens).symm.trans fed)
        exact (located_iff located).2 (.inl ⟨earlier, by rw [same], before⟩)
      | ok state =>
        -- the token at fault is one of those behind
        rw [feed_append before] at fed
        obtain ⟨read, rest, -, split, -⟩ := feed_error fed
        have behind := below.tokens fault.actual (by rw [split]; simp)
        have place : fault.actual.position = position := by
          rw [ParseFailure.place?] at located
          split at located
          · cases located
          · exact Option.some.inj located
        rw [place] at behind
        omega
    · have behind := below.ending fault ending
      rw [Option.some.inj located] at behind
      omega

theorem line_le_of_located (located : failure.place? = some position)
    (failed : back.parse = .error failure) (below : back.Below line) : line ≤ position.line := by
  by_contra above
  -- in front of everything stands the empty stream, which has no failure
  have empty : (Stream.mk [] (.eof .start)).parse = .error failure :=
    located_of_andThen located failed below (by omega)
  cases empty

end Located

/-! ## First lines -/

/-- The first lines of a text. -/
def firstLines (number : Nat) (cs : List Char) : List Char :=
  ['\n'].intercalate ((cs.splitOn '\n').take number)

/-- A text has no more than its first lines, or a line feed follows them. -/
theorem firstLines_cases (number : Nat) (cs : List Char) :
    firstLines (number + 1) cs = cs ∨
      ∃ back, cs = firstLines (number + 1) cs ++ '\n' :: back ∧
        (firstLines (number + 1) cs).count '\n' = number := by
  induction cs using lines_induction generalizing number with
  | last line hl =>
    left
    rw [firstLines, List.splitOn_eq_singleton hl, List.take_succ_cons, List.take_nil,
      List.intercalate_singleton]
  | more line rest hl ih =>
    have none : line.count '\n' = 0 := List.count_eq_zero.2 hl
    rw [firstLines, List.splitOn_append_cons_self_of_not_mem hl, List.take_succ_cons]
    cases number with
    | zero =>
      right
      rw [List.take_zero, List.intercalate_singleton]
      exact ⟨rest, rfl, none⟩
    | succ number =>
      have more : (rest.splitOn '\n').take (number + 1) ≠ [] := by
        simp [List.splitOn_ne_nil]
      have lines : ['\n'].intercalate (line :: (rest.splitOn '\n').take (number + 1)) =
          line ++ '\n' :: firstLines (number + 1) rest := by
        rw [List.intercalate_cons_of_ne_nil more, List.append_assoc]
        rfl
      rw [lines]
      rcases ih number with whole | ⟨back, split, count⟩
      · exact .inl (by rw [whole])
      · refine .inr ⟨back, ?_, ?_⟩
        · rw [List.append_assoc, List.cons_append, ← split]
        · rw [List.count_append, List.count_cons_self, none, count]
          omega

/-- A text fails within its first lines exactly as they do by themselves. -/
theorem parse_firstLines_iff {cs : List Char} {number : Nat} {failure : ParseFailure}
    {position : Position} (located : failure.place? = some position)
    (within : position.line ≤ number) :
    (Stream.scan .start cs).parse = .error failure ↔
      (Stream.scan .start (firstLines number cs)).parse = .error failure := by
  cases number with
  | zero =>
    -- there is no failure above the first line
    have none : ∀ text, (Stream.scan .start text).parse ≠ .error failure := by
      intro text failed
      have line : 1 ≤ position.line := line_le_of_located located failed (scan_below .start text)
      omega
    exact iff_of_false (none cs) (none _)
  | succ number =>
    rcases firstLines_cases number cs with whole | ⟨back, split, count⟩
    · rw [whole]
    · generalize firstLines (number + 1) cs = front at split count
      subst split
      rw [scan_append, start_after_newline, count]
      constructor
      · intro failed
        refine located_of_andThen located failed (scan_below _ back) ?_
        show position.line < 1 + ((number + 1 : Nat) : Int)
        omega
      · exact located_andThen located

/-! ## Whole texts -/

/-- **A failure depends only on the text up to its line.** If a text has the same first lines as one
with a fault within them, or with a token there that cannot follow, then it fails with the same failure:
when it is parsed, when it is analyzed and when it is compiled, for every target, settings and names. -/
theorem failure_of_first_lines {first second : String} {number : Nat} {failure : ParseFailure}
    {position : Position}
    (same : (first.toList.splitOn '\n').take number = (second.toList.splitOn '\n').take number)
    (failed : parse first = .error failure) (located : failure.place? = some position)
    (within : position.line ≤ number) :
    parse second = .error failure ∧
      analyze second = .error (.ofParse failure) ∧
      ∀ requested settings sourceName outputName,
        compile requested settings sourceName outputName second = .error (.ofParse failure) := by
  have lines : firstLines number first.toList = firstLines number second.toList := by
    rw [firstLines, firstLines, same]
  have parsed : parse second = .error failure := by
    rw [parse, Stream.ofText, parse_firstLines_iff located within] at failed ⊢
    rwa [← lines]
  refine ⟨parsed, ?_, fun requested settings sourceName outputName => compile_of_parse_error parsed⟩
  rw [analyze, parsed]
  rfl

/-- A word where a path belongs, in front of lines with an open string or with nothing wrong. -/
theorem failure_of_first_lines_word_for_path :
    parse "test A \x7b\nGET x\n\"" =
      .error (.grammar ⟨⟨.identifier, "x", ⟨2, 5⟩⟩, [.string]⟩) ∧
    parse "test A \x7b\nGET x\n\x7d" =
      .error (.grammar ⟨⟨.identifier, "x", ⟨2, 5⟩⟩, [.string]⟩) := by
  have first : parse "test A \x7b\nGET x\n\"" =
      .error (.grammar ⟨⟨.identifier, "x", ⟨2, 5⟩⟩, [.string]⟩) := by
    decide +kernel
  refine ⟨first, ?_⟩
  exact (@failure_of_first_lines _ _ 2 _ ⟨2, 5⟩ (by decide) first rfl (by decide)).1

end HttpSuite
