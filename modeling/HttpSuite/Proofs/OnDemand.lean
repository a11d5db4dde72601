import HttpSuite.Proofs.Lexing
import HttpSuite.Proofs.Parsing

/-!
# Reading on demand

A text can be read in three ways: token by token while it is being lexed, from the list of all its
tokens, and from that list without the token that closes it. The first way looks at nothing behind a
refused token. `parse_agrees_with_token_lists` says how far the three agree:

* **in step** — reading on demand gives what feeding the whole stream gives (`readOnDemand_eq`), so
  that a refused token is reported before a fault of the text behind it;
* **without an end** — the end that a list implies can only differ in its place
  (`sameUpToEnd_of_positions`);
* **the implied place** — it is the right one where the text ends in a token, since no token spans a
  line feed (`impliedEnd_of_endsInToken`).
-/

namespace HttpSuite

open Grammar Lexing

/-! ## Lexing and reading in step -/

/-- The blocks of a text, read from a state on. A token is cut off, stepped over and forgotten before
the next one is looked for. -/
def readOnDemand (state : State) (position : Position) (cs : List Char) :
    Except ParseFailure (List Block) :=
  if cs.isEmpty then (state.finish (.endOfInput position)).mapError .grammar
  else match _h : Piece.first cs with
    | none => .error (.lexical (.ofText position cs))
    | some piece =>
      match piece.kind with
      | none => readOnDemand state (position.after piece.text) piece.rest
      | some kind =>
        match state.step ⟨kind, String.ofList piece.text, position⟩ with
        | none => .error (.grammar ⟨⟨kind, String.ofList piece.text, position⟩, state.expected⟩)
        | some next => readOnDemand next (position.after piece.text) piece.rest
termination_by cs.length
decreasing_by
  · exact Piece.first_rest_length _h
  · exact Piece.first_rest_length _h

/-- The blocks of a stream, read from a state on. -/
def Stream.blocksFrom (state : State) (stream : Stream) : Except ParseFailure (List Block) :=
  match state.feed stream.tokens, stream.ending with
  | .error fault, _ => .error (.grammar fault)
  | .ok _, .fault fault => .error (.lexical fault)
  | .ok state, .eof position => (state.finish (.endOfInput position)).mapError .grammar

theorem blocksFrom_push (state : State) (token : Token) (stream : Stream) :
    (stream.push (some token)).blocksFrom state =
      match state.step token with
      | none => .error (.grammar ⟨token, state.expected⟩)
      | some next => stream.blocksFrom next := by
  rw [Stream.blocksFrom]
  show (match state.feed (token :: stream.tokens), stream.ending with
    | .error fault, _ => _
    | .ok _, .fault fault => _
    | .ok state, .eof position => _) = _
  rw [State.feed]
  cases state.step token <;> rfl

/-- Reading in step with lexing is reading the stream of the whole text. -/
theorem readOnDemand_eq (state : State) (position : Position) (cs : List Char) :
    readOnDemand state position cs = (Stream.scan position cs).blocksFrom state := by
  fun_induction readOnDemand state position cs with
  | case1 state position cs empty =>
    obtain rfl := List.isEmpty_iff.1 empty
    rw [scan_stuck rfl]
    rfl
  | case2 state position cs nonempty stuck =>
    rw [scan_stuck stuck, if_neg nonempty]
    rfl
  | case3 state position cs nonempty piece first skipped ih =>
    rw [ih, scan_cut position (cuts_of_first first), skipped]
    rfl
  | case4 state position cs nonempty piece first kind token refused =>
    rw [scan_cut position (cuts_of_first first), token, Option.map_some, blocksFrom_push, refused]
  | case5 state position cs nonempty piece first kind token next step ih =>
    rw [ih, scan_cut position (cuts_of_first first), token, Option.map_some, blocksFrom_push, step]

theorem parse_eq_readOnDemand (source : String) :
    parse source = readOnDemand .initial .start source.toList >>= fun blocks =>
      (Program.ofBlocks blocks).mapError .value := by
  rw [readOnDemand_eq, parse, Stream.parse, Stream.blocksFrom, Stream.ofText]
  cases State.initial.feed (Stream.scan .start source.toList).tokens with
  | error fault => rfl
  | ok state =>
    cases (Stream.scan .start source.toList).ending with
    | fault fault => rfl
    | eof position =>
      dsimp only
      cases state.finish (.endOfInput position) <;> rfl

/-! ## Lists with and without an end -/

/-- Two outcomes that differ at most in the place of the end of input. -/
inductive SameUpToEnd : Except ParseFailure Program → Except ParseFailure Program → Prop
  | same (outcome : Except ParseFailure Program) : SameUpToEnd outcome outcome
  | early (p q : Position) (expected : List Kind) :
      SameUpToEnd (.error (.grammar ⟨.endOfInput p, expected⟩))
        (.error (.grammar ⟨.endOfInput q, expected⟩))

section Endless

variable {front : List Token} (inside : ∀ token ∈ front, token.kind ≠ .eof)

include inside

theorem parseTokens_endOfInput (position : Position) :
    parseTokens (front ++ [.endOfInput position]) =
      readBlocks (State.initial.feed front >>= (·.finish (.endOfInput position))) := by
  have others : ∀ token ∈ front, (token.kind != .eof) = true :=
    fun token hm => bne_iff_ne.2 (inside token hm)
  have cut : beforeEnd (front ++ [.endOfInput position]) = front := by
    rw [beforeEnd, List.takeWhile_append_of_pos others]
    exact List.append_nil front
  have last : endToken (front ++ [.endOfInput position]) = .endOfInput position := by
    have absent : front.find? (·.kind == .eof) = none :=
      List.find?_eq_none.2 fun token hm => by simpa using inside token hm
    rw [endToken, List.find?_append, absent]
    rfl
  rw [parseTokens_eq, cut, last]

/-- A list without an end is one that ends right after its last token. -/
theorem parseTokens_endless :
    parseTokens front = parseTokens (front ++ [.endOfInput (impliedEnd front)]) := by
  have cut : beforeEnd front = front :=
    List.takeWhile_eq_self_iff.2 fun token hm => bne_iff_ne.2 (inside token hm)
  have last : endToken front = .endOfInput (impliedEnd front) := by
    have absent : front.find? (·.kind == .eof) = none :=
      List.find?_eq_none.2 fun token hm => by simpa using inside token hm
    rw [endToken, absent, cut]
    rfl
  rw [parseTokens_endOfInput inside, parseTokens_eq, cut, last]

/-- Where a list ends matters only to what is said about an end that comes too early. -/
theorem sameUpToEnd_of_positions (p q : Position) :
    SameUpToEnd (parseTokens (front ++ [.endOfInput p])) (parseTokens (front ++ [.endOfInput q])) := by
  rw [parseTokens_endOfInput inside, parseTokens_endOfInput inside]
  cases State.initial.feed front with
  | error fault => exact .same _
  | ok state =>
    show SameUpToEnd (readBlocks (state.finish _)) (readBlocks (state.finish _))
    by_cases final : state.place = .top
    · rw [finish_of_final final, finish_of_final final]
      exact .same _
    · rw [finish_of_not_final final, finish_of_not_final final]
      exact .early p q state.expected

end Endless

/-! ## The implied place -/

/-- A text is empty, or its last character is that of one of the tokens. -/
def EndsInToken (source : String) (tokens : List Token) : Prop :=
  source = "" ∨ ∃ token ∈ tokens, token.text ≠ "" ∧
    ∃ before, source.toList = before ++ token.text.toList ∧ token.position = placeAfter before

/-- No token spans a line feed. -/
theorem newline_not_mem_of_matches {kind : Kind} {text : List Char} (h : KindMatches kind text) :
    '\n' ∉ text := by
  cases kind with
  | keyword word =>
    obtain rfl : text = word.text.toList := h
    cases word <;> decide
  | method verb =>
    obtain rfl : text = verb.text.toList := h
    cases verb <;> decide
  | identifier =>
    obtain ⟨c, cs, rfl, hc, hcs⟩ := h
    rw [List.mem_cons]
    rintro (rfl | hm)
    · exact absurd hc (by decide)
    · exact absurd (hcs _ hm) (by decide)
  | string =>
    obtain ⟨cs, rfl, hcs⟩ := h
    intro hm
    have inner : '\n' ∈ cs := by simpa using hm
    exact (hcs _ inner).2 rfl
  | integer =>
    intro hm
    exact absurd (h.2 _ hm) (by decide)
  | mark punctuation =>
    obtain rfl : text = punctuation.text.toList := h
    cases punctuation <;> decide
  | eof => exact absurd h id

/-- The place behind a text that goes on within a line. -/
theorem placeAfter_append_of_no_newline (before : List Char) {text : List Char}
    (h : '\n' ∉ text) :
    placeAfter (before ++ text) =
      ⟨(placeAfter before).line, (placeAfter before).column + text.length⟩ := by
  have run : ∀ c ∈ text.reverse, (c != '\n') = true := by
    intro c hc
    rw [bne_iff_ne]
    rintro rfl
    exact h (List.mem_reverse.1 hc)
  have none : text.count '\n' = 0 := List.count_eq_zero.2 h
  simp only [placeAfter, List.count_append, List.reverse_append, none, Nat.add_zero,
    List.takeWhile_append_of_pos run, List.length_append, List.length_reverse, Position.mk.injEq,
    true_and]
  omega

/-- Places tell the beginnings of a text apart. -/
theorem placeAfter_append_injective {before text : List Char}
    (h : placeAfter (before ++ text) = placeAfter before) : text = [] := by
  have lines : text.count '\n' = 0 := by
    have := congrArg Position.line h
    simp only [placeAfter, List.count_append] at this
    omega
  rw [placeAfter_append_of_no_newline before (List.count_eq_zero.1 lines)] at h
  have columns := congrArg Position.column h
  rw [← List.length_eq_zero_iff]
  dsimp only at columns
  omega

/-- Of two beginnings of one text that end at the same place, neither is longer. -/
theorem eq_of_placeAfter_eq {front other back rest : List Char}
    (whole : front ++ back = other ++ rest) (h : placeAfter front = placeAfter other) :
    front = other := by
  rcases List.append_eq_append_iff.1 whole with ⟨more, rfl, -⟩ | ⟨more, rfl, -⟩
  · rw [placeAfter_append_injective h.symm, List.append_nil]
  · rw [placeAfter_append_injective h, List.append_nil]

theorem Lexing.Longest.text_ne_nil {kind : Kind} {text rest : List Char} (h : Longest kind text rest) :
    text ≠ [] :=
  Piece.first_text_ne_nil (first_of_cuts (cuts_iff_longest.2 h))

/-- Lexemes that spell nothing are none. -/
theorem eq_nil_of_spelled_eq_nil {before rest : List Char} {lexemes part : List Lexeme}
    (h : Lexes before lexemes rest) (hs : part ⊆ lexemes) (spelling : spelled part = []) :
    part = [] := by
  cases part with
  | nil => rfl
  | cons lexeme part =>
    have member : lexeme.token ∈ lexemes.map Lexeme.token :=
      List.mem_map_of_mem (hs List.mem_cons_self)
    obtain ⟨behind, longest⟩ := h.longest_of_mem member
    simp only [spelled_cons, List.append_eq_nil_iff] at spelling
    exact absurd spelling.1.2 longest.text_ne_nil

/-- The end that the tokens of a text imply is the end of the text, if it ends in a token. -/
theorem impliedEnd_of_endsInToken {source : String} {tokens : List Token}
    (lexing : IsLexing source tokens) (ends : EndsInToken source tokens) :
    impliedEnd tokens.dropLast = placeAfter source.toList := by
  obtain ⟨lexemes, last, whole, lexes, -, rfl⟩ := lexing
  rw [List.dropLast_concat]
  rcases ends with rfl | ⟨token, hm, nonempty, before, suffix, position⟩
  · have spelling : spelled lexemes = [] := (List.append_eq_nil_iff.1 whole.symm).1
    rw [eq_nil_of_spelled_eq_nil lexes (List.Subset.refl _) spelling]
    rfl
  · rcases List.mem_append.1 hm with hm | hm
    · obtain ⟨lexeme, hl, rfl⟩ := List.mem_map.1 hm
      obtain ⟨front, back, rfl⟩ := List.append_of_mem hl
      have fits := lexes front lexeme back rfl
      have parts : before ++ lexeme.token.text.toList =
          (spelled front ++ lexeme.gap) ++ (lexeme.token.text.toList ++ (spelled back ++ last)) := by
        rw [← suffix, whole]
        simp [spelled]
      -- the token reaches the end of the text, so that nothing stands behind it
      obtain rfl : before = spelled front ++ lexeme.gap := by
        refine eq_of_placeAfter_eq parts ?_
        rw [← position, fits.position, List.nil_append]
      obtain ⟨spelling, -⟩ := List.append_eq_nil_iff.1
        (List.self_eq_append_right.1 (List.append_cancel_left parts))
      obtain rfl := eq_nil_of_spelled_eq_nil lexes (fun other ho => by simp [ho]) spelling
      rw [impliedEnd, List.map_append, List.map_cons, List.map_nil, List.getLast?_concat, suffix,
        placeAfter_append_of_no_newline _ (newline_not_mem_of_matches fits.longest.matched),
        ← position, String.length_toList]
    · obtain rfl := List.mem_singleton.1 hm
      exact absurd rfl nonempty

/-! ## Texts that cannot be lexed -/

/-- The tokens that a cursor hands out one by one before it runs into a fault. -/
inductive Emits : Cursor → List Token → LexFault → Prop
  | fault {cursor rest fault} : cursor.next = (.fault fault, rest) → Emits cursor [] fault
  | token {cursor rest token tokens fault} :
      cursor.next = (.token token, rest) → Emits rest tokens fault →
      Emits cursor (token :: tokens) fault

theorem emits_iff {pending emitted : List Token} {ending : Ending} {fault : LexFault} :
    Emits ⟨pending, some ending⟩ emitted fault ↔ pending = emitted ∧ ending = .fault fault := by
  constructor
  · intro h
    induction pending generalizing emitted with
    | nil =>
      cases ending with
      | fault found =>
        cases h with
        | fault next => cases next; exact ⟨rfl, rfl⟩
        | token next _ => cases next
      | eof position =>
        -- the token of the end leaves a cursor that delivers nothing
        cases h with
        | fault next => cases next
        | token next behind =>
          cases next
          cases behind with
          | fault next => cases next
          | token next _ => cases next
    | cons token pending ih =>
      cases h with
      | fault next => cases next
      | token next behind =>
        cases next
        obtain ⟨rfl, same⟩ := ih behind
        exact ⟨rfl, same⟩
  · rintro ⟨rfl, rfl⟩
    induction pending with
    | nil => exact .fault rfl
    | cons token pending ih => exact .token rfl ih

theorem tokenize_error_iff {source : String} {fault : LexFault} :
    tokenize source = .error fault ↔ (Stream.ofText source).ending = .fault fault := by
  rw [tokenize_eq]
  cases (Stream.ofText source).ending <;> simp

/-- A fault of a text is reported unless a token in front of it is refused. -/
theorem parse_of_fault {source : String} {fault : LexFault}
    (h : (Stream.ofText source).ending = .fault fault) :
    parse source = match State.initial.feed (Stream.ofText source).tokens with
      | .error refused => .error (.grammar refused)
      | .ok _ => .error (.lexical fault) := by
  rw [parse, Stream.parse, h]
  cases State.initial.feed (Stream.ofText source).tokens <;> rfl

theorem parse_of_tokenize {source : String} {tokens : List Token}
    (h : tokenize source = .ok tokens) : parse source = parseTokens tokens := by
  have inside : ∀ token ∈ (Stream.ofText source).tokens, token.kind ≠ .eof := fun token =>
    kind_ne_eof_of_mem_ofText
  rw [tokenize_eq] at h
  split at h
  · rename_i position ending
    obtain rfl := Except.ok.inj h
    rw [parseTokens_endOfInput inside, parse, Stream.parse, ending]
    cases State.initial.feed (Stream.ofText source).tokens <;> rfl
  · cases h

theorem exists_front_of_isLexing {source : String} {tokens : List Token}
    (h : IsLexing source tokens) :
    ∃ front, tokens = front ++ [.endOfInput (placeAfter source.toList)] ∧
      ∀ token ∈ front, token.kind ≠ .eof := by
  obtain ⟨lexemes, last, -, lexes, -, rfl⟩ := h
  refine ⟨lexemes.map Lexeme.token, rfl, ?_⟩
  intro token hm
  obtain ⟨behind, longest⟩ := lexes.longest_of_mem hm
  exact longest.kind_ne_eof

/-- **Three ways to read a text.** Reading on demand, from the list of all tokens and from that list
without its end give the same outcome, up to the place of an end that the list only implies; where
the text ends in a token this place is right too. If the text cannot be lexed, the first token in
front of the fault that is refused is reported, and otherwise the fault. -/
theorem parse_agrees_with_token_lists (source : String) :
    (parse source = readOnDemand .initial .start source.toList >>= fun blocks =>
      (Program.ofBlocks blocks).mapError .value) ∧
    (∀ tokens, tokenize source = .ok tokens →
      parse source = parseTokens tokens ∧
      SameUpToEnd (parseTokens tokens) (parseTokens tokens.dropLast) ∧
      (EndsInToken source tokens →
        tokens = tokens.dropLast ++ [.endOfInput (impliedEnd tokens.dropLast)] ∧
          parseTokens tokens.dropLast = parseTokens tokens)) ∧
    (∀ fault, tokenize source = .error fault ↔
      ∃ emitted, Emits (Cursor.ofText source) emitted fault) ∧
    (∀ emitted fault, Emits (Cursor.ofText source) emitted fault →
      (∀ refused, State.initial.feed emitted = .error refused →
        parse source = .error (.grammar refused)) ∧
      (∀ state, State.initial.feed emitted = .ok state →
        parse source = .error (.lexical fault)) ∧
      ∀ program, parse source ≠ .ok program) := by
  refine ⟨parse_eq_readOnDemand source, ?_, ?_, ?_⟩
  · intro tokens lexed
    have lexing := tokenize_iff.1 lexed
    obtain ⟨front, rfl, inside⟩ := exists_front_of_isLexing lexing
    refine ⟨parse_of_tokenize lexed, ?_, ?_⟩
    · rw [List.dropLast_concat, parseTokens_endless inside]
      exact sameUpToEnd_of_positions inside _ _
    · intro ends
      have place := impliedEnd_of_endsInToken lexing ends
      rw [List.dropLast_concat] at place ⊢
      rw [parseTokens_endless inside, place]
      exact ⟨rfl, rfl⟩
  · intro fault
    rw [tokenize_error_iff, Cursor.ofText]
    simp only [emits_iff, exists_eq_left']
  · intro emitted fault emits
    obtain ⟨rfl, failed⟩ := emits_iff.1 emits
    have outcome := parse_of_fault failed
    refine ⟨?_, ?_, ?_⟩
    · intro refused hr
      rwa [hr] at outcome
    · intro state hs
      rwa [hs] at outcome
    · intro program parsed
      rw [outcome] at parsed
      split at parsed <;> cases parsed

/-- A word alone, whose end is implied at the right place; the same word with a blank behind it, where
it is not; and a brace that is refused in front of an open string. -/
theorem parse_agrees_at_a_word :
    parse "test" = parseTokens [⟨.keyword .test, "test", ⟨1, 1⟩⟩] ∧
    SameUpToEnd (parse "test ") (parseTokens [⟨.keyword .test, "test", ⟨1, 1⟩⟩]) ∧
    parse "test " ≠ parseTokens [⟨.keyword .test, "test", ⟨1, 1⟩⟩] ∧
    parse "\x7d \"" = .error (.grammar ⟨⟨.mark .closeBrace, "\x7d", ⟨1, 1⟩⟩, [.keyword .test, .eof]⟩) := by
  have word : tokenize "test" = .ok [⟨.keyword .test, "test", ⟨1, 1⟩⟩, ⟨.eof, "", ⟨1, 5⟩⟩] := by
    decide +kernel
  have blank : tokenize "test " = .ok [⟨.keyword .test, "test", ⟨1, 1⟩⟩, ⟨.eof, "", ⟨1, 6⟩⟩] := by
    decide +kernel
  have cursor : Cursor.ofText "\x7d \"" = ⟨[⟨.mark .closeBrace, "\x7d", ⟨1, 1⟩⟩],
      some (.fault ⟨⟨1, 3⟩, "\"", .unterminatedString⟩)⟩ := by
    decide +kernel
  obtain ⟨-, whole, -⟩ := parse_agrees_with_token_lists "test"
  obtain ⟨listed, -, complete⟩ := whole _ word
  obtain ⟨-, spaced, -⟩ := parse_agrees_with_token_lists "test "
  obtain ⟨listed', same, -⟩ := spaced _ blank
  obtain ⟨-, -, -, faulty⟩ := parse_agrees_with_token_lists "\x7d \""
  refine ⟨?_, ?_, ?_, ?_⟩
  · have ends : EndsInToken "test" [⟨.keyword .test, "test", ⟨1, 1⟩⟩, ⟨.eof, "", ⟨1, 5⟩⟩] :=
      .inr ⟨_, List.mem_cons_self, by decide, [], by decide, by decide⟩
    rw [listed, ← (complete ends).2]
    rfl
  · rw [listed']
    exact same
  · rw [listed']
    decide
  · rw [cursor] at faulty
    exact (faulty _ _ (emits_iff.2 ⟨rfl, rfl⟩)).1 _ rfl

end HttpSuite
