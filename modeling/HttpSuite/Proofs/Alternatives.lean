import HttpSuite.Diagnostic
import HttpSuite.Proofs.Parsing

/-!
# Syntax faults name their alternatives

A syntax fault is reported at the first token behind which no script can go on, with exactly the kinds
that could have stood there (`syntaxFault_exact`):

* **exact steps** — a state expects a kind exactly if it can step over a token of that kind
  (`step_isSome_iff`), and expects the end exactly between blocks (`eof_mem_expected_iff`);
* **completion** — every state can be led to the end of a script (`exists_completion`), so what has
  been read is viable (`viable_of_feed`);
* **next kinds** — hence one more kind keeps it viable exactly if the state expects it
  (`viable_snoc_iff`).
-/

namespace HttpSuite.Grammar

/-! ## Expected kinds -/

/-- A bare token of a kind. -/
def bare (kind : Kind) : Token := ⟨kind, "", .start⟩

theorem map_kind_bare (kinds : List Kind) : (kinds.map bare).map Token.kind = kinds := by
  rw [List.map_map]
  exact List.map_id _

/-- A statement that has begun moves on with the kinds that it expects; before its first token and
behind its last one the block takes part. -/
theorem exists_moves {progress : Progress} {token : Token} (h : token.kind ∈ progress.expected)
    (closeBrace : token.kind ≠ .mark .closeBrace) (semicolon : token.kind ≠ .mark .semicolon) :
    ∃ next, Moves progress token next := by
  cases progress with
  | ready =>
    simp only [Progress.expected, List.mem_cons, List.not_mem_nil, or_false, closeBrace] at h
    rcases h with hk | hk | hk | hk | hk
    · exact ⟨_, .method hk⟩
    · exact ⟨_, .method hk⟩
    · exact ⟨_, .method hk⟩
    · exact ⟨_, .method hk⟩
    · exact ⟨_, .expect hk⟩
  | path => exact ⟨_, .path (List.mem_singleton.1 h)⟩
  | expect =>
    simp only [Progress.expected, List.mem_cons, List.not_mem_nil, or_false] at h
    rcases h with hk | hk | hk
    · exact ⟨_, .body hk⟩
    · exact ⟨_, .header hk⟩
    · exact ⟨_, .status hk⟩
  | status =>
    simp only [Progress.expected, List.mem_cons, List.not_mem_nil, or_false] at h
    rcases h with hk | hk
    · exact ⟨_, .equals hk⟩
    · exact ⟨_, .within hk⟩
  | code => exact ⟨_, .code (List.mem_singleton.1 h)⟩
  | low => exact ⟨_, .low (List.mem_singleton.1 h)⟩
  | range => exact ⟨_, .range (List.mem_singleton.1 h)⟩
  | high => exact ⟨_, .high (List.mem_singleton.1 h)⟩
  | contains => exact ⟨_, .contains (List.mem_singleton.1 h)⟩
  | bodyText => exact ⟨_, .text (List.mem_singleton.1 h)⟩
  | headerName => exact ⟨_, .name (List.mem_singleton.1 h)⟩
  | headerEquals => exact ⟨_, .headerEquals (List.mem_singleton.1 h)⟩
  | headerValue => exact ⟨_, .value (List.mem_singleton.1 h)⟩
  | complete => exact absurd (List.mem_singleton.1 h) semicolon

/-- A move is over an expected kind, and never the end of input. -/
theorem Moves.kind_mem {progress next : Progress} {token : Token} (h : Moves progress token next) :
    token.kind ∈ progress.expected ∧ token.kind ≠ .eof := by
  cases h with
  | @method token verb hk => cases verb <;> simp [Progress.expected, hk]
  | _ => simp [Progress.expected, *]

theorem ready_of_closeBrace {progress : Progress} (h : Kind.mark .closeBrace ∈ progress.expected) :
    progress = .ready := by
  cases progress <;> simp [Progress.expected] at h ⊢

theorem complete_of_semicolon {progress : Progress}
    (h : Kind.mark .semicolon ∈ progress.expected) :
    ∃ statement, progress = .complete statement := by
  cases progress <;> simp [Progress.expected] at h ⊢

/-- The reader steps over exactly the kinds that it expects, the end of input apart. -/
theorem step_isSome_iff {state : State} {token : Token} :
    (∃ next, state.step token = some next) ↔ token.kind ∈ state.expected ∧ token.kind ≠ .eof := by
  simp only [state_step_iff]
  obtain ⟨blocks, place⟩ := state
  constructor
  · rintro ⟨next, hs⟩
    cases hs with
    | within hm => exact hm.kind_mem
    | _ => simp [State.expected, Progress.expected, *]
  · rintro ⟨he, hn⟩
    cases place with
    | top =>
      simp only [State.expected, List.mem_cons, List.not_mem_nil, or_false, hn] at he
      exact ⟨_, .test he⟩
    | name => exact ⟨_, .name (List.mem_singleton.1 he)⟩
    | brace => exact ⟨_, .openBrace (List.mem_singleton.1 he)⟩
    | body name statements progress =>
      change token.kind ∈ progress.expected at he
      by_cases hc : token.kind = .mark .closeBrace
      · obtain rfl := ready_of_closeBrace (hc ▸ he)
        exact ⟨_, .closeBrace hc⟩
      · by_cases hs : token.kind = .mark .semicolon
        · obtain ⟨statement, rfl⟩ := complete_of_semicolon (hs ▸ he)
          exact ⟨_, .semicolon hs⟩
        · obtain ⟨next, hm⟩ := exists_moves he hc hs
          exact ⟨_, .within hm⟩

theorem eof_mem_expected_iff {state : State} : .eof ∈ state.expected ↔ state.place = .top := by
  obtain ⟨blocks, place⟩ := state
  cases place with
  | body name statements progress =>
    cases progress <;> simp [State.expected, Progress.expected]
  | _ => simp [State.expected]

/-- No state is without expectations, and none lists a kind twice. -/
theorem expected_ne_nil_and_nodup (state : State) :
    state.expected ≠ [] ∧ state.expected.Nodup := by
  obtain ⟨blocks, place⟩ := state
  cases place with
  | body name statements progress =>
    cases progress <;> simp [State.expected, Progress.expected]
  | _ => simp [State.expected]

/-! ## Completion -/

/-- The kinds that finish a statement, its semicolon included. -/
def completion : Progress → List Kind
  | .ready => []
  | .path _ => [.string, .mark .semicolon]
  | .expect => [.keyword .status, .mark .equals, .integer, .mark .semicolon]
  | .status => [.mark .equals, .integer, .mark .semicolon]
  | .code => [.integer, .mark .semicolon]
  | .low => [.integer, .mark .range, .integer, .mark .semicolon]
  | .range _ => [.mark .range, .integer, .mark .semicolon]
  | .high _ => [.integer, .mark .semicolon]
  | .contains => [.keyword .contains, .string, .mark .semicolon]
  | .bodyText => [.string, .mark .semicolon]
  | .headerName => [.string, .mark .equals, .string, .mark .semicolon]
  | .headerEquals _ => [.mark .equals, .string, .mark .semicolon]
  | .headerValue _ => [.string, .mark .semicolon]
  | .complete _ => [.mark .semicolon]

theorem feed_completion (blocks : List Block) (name : Token) (statements : List Statement)
    (progress : Progress) :
    ∃ more, State.feed ⟨blocks, .body name statements progress⟩ ((completion progress).map bare) =
      .ok ⟨blocks, .body name more .ready⟩ := by
  cases progress <;> exact ⟨_, rfl⟩

/-- Every state can be led to the end of a script. -/
theorem exists_completion (state : State) :
    ∃ rest next, state.feed rest = .ok next ∧ next.place = .top := by
  obtain ⟨blocks, place⟩ := state
  cases place with
  | top => exact ⟨[], _, rfl, rfl⟩
  | name =>
    exact ⟨[bare .identifier, bare (.mark .openBrace), bare (.mark .closeBrace)], _, rfl, rfl⟩
  | brace name => exact ⟨[bare (.mark .openBrace), bare (.mark .closeBrace)], _, rfl, rfl⟩
  | body name statements progress =>
    obtain ⟨more, hc⟩ := feed_completion blocks name statements progress
    refine ⟨(completion progress).map bare ++ [bare (.mark .closeBrace)],
      ⟨blocks ++ [⟨name, more⟩], .top⟩, ?_, rfl⟩
    rw [feed_append hc]
    rfl

/-! ## Viable prefixes -/

section Viable

variable {tokens : List Token} {state : State}

theorem sentence_iff_final (h : State.initial.feed tokens = .ok state) :
    Sentence (tokens.map Token.kind) ↔ state.place = .top := by
  rw [sentence_iff_feed, h]
  constructor
  · rintro ⟨blocks, equal⟩
    rw [Except.ok.inj equal]
  · intro final
    exact ⟨state.blocks, by rw [← final]⟩

/-- What has been read can become a script. -/
theorem viable_of_feed (h : State.initial.feed tokens = .ok state) :
    Viable (tokens.map Token.kind) := by
  obtain ⟨rest, next, hf, final⟩ := exists_completion state
  refine ⟨rest.map Token.kind, ?_⟩
  rw [← List.map_append]
  exact (sentence_iff_final ((feed_append h).trans hf)).2 final

/-- What has been read stays viable with exactly the kinds that the reader expects. -/
theorem viable_snoc_iff (h : State.initial.feed tokens = .ok state) (kind : Kind) :
    Viable (tokens.map Token.kind ++ [kind]) ↔ kind ∈ state.expected ∧ kind ≠ .eof := by
  have step := @step_isSome_iff state (bare kind)
  constructor
  · rintro ⟨rest, sentence⟩
    have kinds : tokens.map Token.kind ++ [kind] ++ rest =
        (tokens ++ bare kind :: rest.map bare).map Token.kind := by
      rw [List.map_append, List.map_cons, map_kind_bare, List.append_assoc]
      rfl
    rw [kinds, sentence_iff_feed, feed_append h] at sentence
    obtain ⟨blocks, read⟩ := sentence
    apply step.1
    rw [State.feed] at read
    split at read
    · exact ⟨_, ‹_›⟩
    · cases read
  · intro expected
    obtain ⟨next, hs⟩ := step.2 expected
    have longer : State.initial.feed (tokens ++ [bare kind]) = .ok next := by
      rw [feed_append h, feed_cons_of_step hs]
      rfl
    have viable := viable_of_feed longer
    rwa [List.map_append] at viable

end Viable

/-! ## Faults -/

/-- A run that fails stops at its first token that cannot follow. -/
theorem feed_error {state : State} {tokens : List Token} {fault : SyntaxFault}
    (h : state.feed tokens = .error fault) :
    ∃ front rest next, tokens = front ++ fault.actual :: rest ∧ state.feed front = .ok next ∧
      next.step fault.actual = none ∧ fault.expected = next.expected := by
  induction tokens generalizing state with
  | nil => cases h
  | cons token tokens ih =>
    rw [State.feed] at h
    split at h
    · rename_i middle hs
      obtain ⟨front, rest, next, rfl, hf, hn, he⟩ := ih h
      refine ⟨token :: front, rest, next, rfl, ?_, hn, he⟩
      rw [feed_cons_of_step hs, hf]
    · rename_i hs
      obtain rfl := Except.error.inj h
      exact ⟨[], tokens, state, rfl, rfl, hs, rfl⟩

/-- The end of a token list is its first end token, or follows its last token. -/
theorem endToken_cases (tokens : List Token) :
    (endToken tokens).kind = .eof ∧
      ((∃ rest, tokens = beforeEnd tokens ++ endToken tokens :: rest) ∨
        (beforeEnd tokens = tokens ∧ endToken tokens = .endOfInput (impliedEnd tokens))) := by
  cases hf : tokens.find? (·.kind == .eof) with
  | none =>
    have whole : beforeEnd tokens = tokens := by
      rw [List.find?_eq_none] at hf
      exact List.takeWhile_eq_self_iff.2 fun token hm => by simpa using hf token hm
    rw [endToken, hf, whole]
    exact ⟨rfl, .inr ⟨rfl, rfl⟩⟩
  | some last =>
    obtain ⟨hk, front, rest, rfl, hn⟩ := List.find?_eq_some_iff_append.1 hf
    have cut : beforeEnd (front ++ last :: rest) = front := by
      rw [beforeEnd, List.takeWhile_append_of_pos fun token hm => by simpa using hn token hm,
        List.takeWhile_cons_of_neg (by simpa using hk), List.append_nil]
    rw [endToken, hf, cut]
    exact ⟨by simpa using hk, .inl ⟨rest, rfl⟩⟩

/-- A syntax fault stands behind an accepted run and lists what the last state of it expects. -/
theorem exists_run_of_fault {tokens : List Token} {fault : SyntaxFault}
    (h : parseTokens tokens = .error (.grammar fault)) :
    ∃ before state,
      ((∃ rest, tokens = before ++ fault.actual :: rest) ∨
        (before = tokens ∧ fault.actual = .endOfInput (impliedEnd tokens))) ∧
      State.initial.feed before = .ok state ∧
      (if fault.actual.kind = .eof then state.place ≠ .top else state.step fault.actual = none) ∧
      fault.expected = state.expected := by
  rcases parseTokens_grammar_iff.1 h with stopped | ⟨state, read, early, rfl⟩
  · obtain ⟨before, rest, state, split, read, refused, expected⟩ := feed_error stopped
    have inside : fault.actual.kind ≠ .eof := by
      have member : fault.actual ∈ beforeEnd tokens := by simp [split]
      simpa using List.mem_takeWhile_imp member
    have whole : tokens = before ++ fault.actual :: (rest ++ tokens.dropWhile (·.kind != .eof)) := by
      rw [← List.cons_append, ← List.append_assoc, ← split, beforeEnd,
        List.takeWhile_append_dropWhile]
    exact ⟨before, state, .inl ⟨_, whole⟩, read, by rwa [if_neg inside], expected⟩
  · obtain ⟨ends, place⟩ := endToken_cases tokens
    exact ⟨beforeEnd tokens, state, place, read, by rwa [if_pos ends], rfl⟩

/-- **Syntax faults are earliest and exact.** The tokens in front of the reported one can still become
a script, with it they cannot, and the reported kinds are exactly those that keep them viable, with
the end of input where they are a script already. -/
theorem syntaxFault_exact (tokens : List Token) (fault : SyntaxFault)
    (h : parseTokens tokens = .error (.grammar fault)) :
    ∃ before,
      ((∃ rest, tokens = before ++ fault.actual :: rest) ∨
        (before = tokens ∧ fault.actual = .endOfInput (impliedEnd tokens))) ∧
      Viable (before.map Token.kind) ∧
      (if fault.actual.kind = .eof then ¬ Sentence (before.map Token.kind)
        else ¬ Viable (before.map Token.kind ++ [fault.actual.kind])) ∧
      (∀ kind, kind ≠ .eof →
        (kind ∈ fault.expected ↔ Viable (before.map Token.kind ++ [kind]))) ∧
      (.eof ∈ fault.expected ↔ Sentence (before.map Token.kind)) ∧
      fault.expected ≠ [] ∧ fault.expected.Nodup ∧
      (CompileError.grammar fault).diagnostic.line = some fault.actual.position.line ∧
      (CompileError.grammar fault).diagnostic.column = some fault.actual.position.column := by
  obtain ⟨before, state, place, read, refused, expected⟩ := exists_run_of_fault h
  obtain ⟨nonempty, nodup⟩ := expected_ne_nil_and_nodup state
  rw [expected]
  refine ⟨before, place, viable_of_feed read, ?_, ?_, ?_, nonempty, nodup, rfl, rfl⟩
  · by_cases ends : fault.actual.kind = .eof
    · rw [if_pos ends] at refused ⊢
      rwa [sentence_iff_final read]
    · rw [if_neg ends] at refused ⊢
      rw [viable_snoc_iff read, ← step_isSome_iff, refused]
      rintro ⟨next, hs⟩
      cases hs
  · intro kind inside
    rw [viable_snoc_iff read]
    exact ⟨fun member => ⟨member, inside⟩, And.left⟩
  · rw [sentence_iff_final read, eof_mem_expected_iff]

/-- A bare `expect`: the brace behind it is refused, and a check of the body could stand there. -/
theorem syntaxFault_bare_expect :
    ∃ before rest,
      [⟨.keyword .test, "test", ⟨1, 1⟩⟩, ⟨.identifier, "A", ⟨1, 6⟩⟩,
        ⟨.mark .openBrace, "\x7b", ⟨1, 8⟩⟩, ⟨.keyword .expect, "expect", ⟨1, 10⟩⟩,
        ⟨.mark .closeBrace, "\x7d", ⟨1, 17⟩⟩] =
        before ++ ⟨.mark .closeBrace, "\x7d", ⟨1, 17⟩⟩ :: rest ∧
      Viable (before.map Token.kind) ∧
      ¬ Viable (before.map Token.kind ++ [.mark .closeBrace]) ∧
      Viable (before.map Token.kind ++ [.keyword .body]) ∧ ¬ Sentence (before.map Token.kind) := by
  obtain ⟨before, place, viable, refused, expected, ends, -⟩ := syntaxFault_exact
    [⟨.keyword .test, "test", ⟨1, 1⟩⟩, ⟨.identifier, "A", ⟨1, 6⟩⟩,
      ⟨.mark .openBrace, "\x7b", ⟨1, 8⟩⟩, ⟨.keyword .expect, "expect", ⟨1, 10⟩⟩,
      ⟨.mark .closeBrace, "\x7d", ⟨1, 17⟩⟩]
    ⟨⟨.mark .closeBrace, "\x7d", ⟨1, 17⟩⟩, [.keyword .body, .keyword .header, .keyword .status]⟩ rfl
  obtain ⟨rest, split⟩ | ⟨-, impossible⟩ := place
  · refine ⟨before, rest, split, viable, refused, (expected _ (by decide)).1 (by decide), ?_⟩
    rw [← ends]
    decide
  · cases impossible

end HttpSuite.Grammar
