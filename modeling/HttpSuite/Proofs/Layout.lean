import HttpSuite.Proofs.FirstFailure
import HttpSuite.Proofs.LineEnds

/-!
# Layout

Blanks and comments can be put in between the tokens of a text, and nothing but places changes
(`layout_insertion`):

* **gaps** — what is put in joins the gap that is there, also at the end of a text, where a comment
  that is still open takes a part of it (`gap_append_trivia_end`);
* **neighbours** — the tokens in front stay the longest matches (`Lexes.change_rest`), since no word
  and no numeral goes on with what is put in;
* **boundaries** — each place at which layout may be put in lies behind a gap of the lexing
  (`exists_joint_of_boundary`), so that the streams differ in places only (`forget_ofText`).
-/

namespace HttpSuite

open Grammar Lexing

/-! ## Trivia -/

/-- What can be put in between tokens: blanks, and comments each ended by a line feed. -/
inductive Trivia : List Char → Prop
  | nil : Trivia []
  | blank {c more} : c ∈ [' ', '\t', '\x0c', '\r', '\n'] → Trivia more → Trivia (c :: more)
  | comment {body more} :
      (∀ c ∈ body, c ≠ '\n') → Trivia more → Trivia ('/' :: '/' :: body ++ '\n' :: more)

theorem isLayout_iff_mem {c : Char} : isLayout c ↔ c ∈ [' ', '\t', '\x0c', '\r', '\n'] := by
  simp [isLayout_iff]

theorem Trivia.append {front back : List Char} (h : Trivia front) (hb : Trivia back) :
    Trivia (front ++ back) := by
  induction h with
  | nil => exact hb
  | blank hc _ ih => exact .blank hc ih
  | @comment body more hc _ ih =>
    rw [List.append_assoc, List.cons_append]
    exact .comment hc ih

/-- Trivia are a gap in front of every text. -/
theorem Trivia.gap {trivia : List Char} (h : Trivia trivia) (rest : List Char) :
    Gap rest trivia := by
  induction h with
  | nil => exact .nil
  | blank hc _ ih => exact .blank (isLayout_iff_mem.2 hc) ih
  | comment hc _ ih => exact .comment hc (stops_newline rfl _) (.blank rfl ih)

theorem Trivia.of_newline_cons {more : List Char} (h : Trivia ('\n' :: more)) : Trivia more := by
  generalize whole : '\n' :: more = trivia at h
  cases h with
  | nil => cases whole
  | blank _ hm => exact (List.cons.inj whole).2 ▸ hm
  | comment => cases whole

/-- In front of anything but a line feed or the end, a gap holds no open comment. -/
theorem trivia_of_gap {rest gap : List Char} (h : Gap rest gap) (ne : rest ≠ [])
    (hn : '\n' ∉ rest.head?) : Trivia gap := by
  induction h with
  | nil => exact .nil
  | blank hc _ ih => exact .blank (isLayout_iff_mem.1 hc) ih
  | @comment body gap hb stops _ ih =>
    cases gap with
    | nil =>
      obtain ⟨c, cs, rfl⟩ := List.exists_cons_of_ne_nil ne
      have feed : c = '\n' := by simpa using stops c cs rfl
      exact absurd (feed ▸ rfl) hn
    | cons c gap =>
      have feed : c = '\n' := by simpa using stops c (gap ++ rest) rfl
      subst feed
      exact .comment hb ih.of_newline_cons

/-- What is left of trivia from a line feed on. -/
theorem Trivia.dropWhile {trivia : List Char} (h : Trivia trivia) :
    Trivia (trivia.dropWhile (· != '\n')) := by
  induction h with
  | nil => exact .nil
  | @blank c more hc hm ih =>
    by_cases feed : c = '\n'
    · subst feed
      exact .blank hc hm
    · rw [List.dropWhile_cons_of_pos (by simpa using feed)]
      exact ih
  | @comment body more hb hm ih =>
    have run : ∀ c ∈ '/' :: '/' :: body, (c != '\n') = true := by
      simpa using hb
    rw [dropWhile_append_of_stops run (stops_newline rfl more)]
    exact .blank (by decide) hm

/-- At the end of a text, trivia join what stands there; an open comment takes the first line. -/
theorem gap_append_trivia_end {gap trivia : List Char} (h : Gap [] gap) (ht : Trivia trivia) :
    Gap [] (gap ++ trivia) := by
  induction h with
  | nil => exact ht.gap []
  | blank hc _ ih => exact .blank hc ih
  | @comment body gap hb stops _ ih =>
    cases gap with
    | nil =>
      have run : ∀ c ∈ body ++ trivia.takeWhile (· != '\n'), c ≠ '\n' := by
        refine List.forall_mem_append.2 ⟨hb, ?_⟩
        intro c hc
        simpa using List.mem_takeWhile_imp hc
      have ends : Stops (· != '\n') (trivia.dropWhile (· != '\n') ++ []) := by
        rw [List.append_nil]
        exact stops_dropWhile _ trivia
      have joined := Gap.comment run ends (ht.dropWhile.gap [])
      rw [List.cons_append, List.cons_append, List.append_assoc,
        List.takeWhile_append_dropWhile] at joined
      rw [List.append_nil]
      exact joined
    | cons c gap =>
      have feed : c = '\n' := by simpa using stops c (gap ++ []) rfl
      subst feed
      rw [List.append_assoc]
      exact .comment hb (stops_newline rfl _) ih

/-! ## Tokens in front of trivia -/

/-- A gap that is not empty ends every word. -/
theorem Lexing.Gap.stops_isWordPart {rest gap : List Char} (h : Gap rest gap) (ne : gap ≠ [])
    (more : List Char) : Stops isWordPart (gap ++ more) := by
  rintro c cs split
  cases h with
  | nil => exact absurd rfl ne
  | blank hc _ =>
    obtain ⟨rfl, -⟩ := List.cons.inj split
    rcases isLayout_iff.1 hc with rfl | rfl | rfl | rfl | rfl <;> rfl
  | comment =>
    obtain ⟨rfl, -⟩ := List.cons.inj split
    rfl

theorem Lexing.Longest.head_ne_newline {kind : Kind} {text rest : List Char}
    (h : Longest kind text rest) (more : List Char) : '\n' ∉ (text ++ more).head? := by
  obtain ⟨c, cs, rfl⟩ := List.exists_cons_of_ne_nil h.text_ne_nil
  intro feed
  obtain rfl := Option.some.inj feed
  exact newline_not_mem_of_matches h.matched List.mem_cons_self

/-- A token stays the longest match in front of what ends all words. -/
theorem Lexing.Longest.change_rest {kind : Kind} {text front rest other : List Char}
    (h : Longest kind text (front ++ rest)) (ends : Stops isWordPart other) :
    Longest kind text (front ++ other) := by
  have cut := cuts_iff_longest.2 h
  refine cuts_iff_longest.1 (cut.change_rest ?_ ?_ ?_)
  · intro slash
    obtain ⟨none, -⟩ := comment_of_slash cut slash
    cases none
  · exact fun stops => stops.of_append.append ends
  · exact fun stops => stops.of_append.append ends.isDigit

/-- In front of what ends all words, lexemes stay what they are. -/
theorem Lexing.Lexes.change_rest {before rest other : List Char} {lexemes : List Lexeme}
    (h : Lexes before lexemes rest) (ends : Stops isWordPart other) :
    Lexes before lexemes other := by
  intro front lexeme back split
  obtain ⟨gap, longest, position⟩ := h front lexeme back split
  have inner : Trivia lexeme.gap :=
    trivia_of_gap gap (by simp [longest.text_ne_nil]) (longest.head_ne_newline _)
  exact ⟨inner.gap _, longest.change_rest ends, position⟩

theorem spelled_append (front back : List Lexeme) :
    spelled (front ++ back) = spelled front ++ spelled back :=
  List.flatMap_append

theorem Lexing.Lexes.front {before rest : List Char} {lexemes others : List Lexeme}
    (h : Lexes before (lexemes ++ others) rest) : Lexes before lexemes (spelled others ++ rest) := by
  intro front lexeme back split
  have fits := h front lexeme (back ++ others) (by rw [split, List.append_assoc, List.cons_append])
  rwa [spelled_append, List.append_assoc] at fits

/-! ## Places for layout -/

/-- Where layout may be put in: at the start and at the end of a text, and at the start and at the end
of each of its tokens. -/
inductive Boundary (front back : List Char) (tokens : List Token) : Prop
  | start : front = [] → Boundary front back tokens
  | finish : back = [] → Boundary front back tokens
  | ahead {token} : token ∈ tokens → placeAfter front = token.position →
      Boundary front back tokens
  | behind {token before} : token ∈ tokens → front = before ++ token.text.toList →
      placeAfter before = token.position → Boundary front back tokens

/-- A place behind lexemes and a gap that trivia can join. -/
structure Joint (front back : List Char) (lexemes : List Lexeme) (gap : List Char) : Prop where
  whole : front = spelled lexemes ++ gap
  lexes : Lexes [] lexemes (gap ++ back)
  skipped : Gap back gap
  joins : ∀ trivia, Trivia trivia → Gap back (gap ++ trivia)

/-- The start of a token lies behind the gap of its lexeme. -/
theorem joint_ahead {before after : List Lexeme} {lexeme : Lexeme} {last : List Char}
    (h : Lexes [] (before ++ lexeme :: after) last) :
    Joint (spelled before ++ lexeme.gap) (lexeme.token.text.toList ++ (spelled after ++ last)) before
      lexeme.gap := by
  have fits := h before lexeme after rfl
  have trivia : Trivia lexeme.gap :=
    trivia_of_gap fits.gap (by simp [fits.longest.text_ne_nil]) (fits.longest.head_ne_newline _)
  have lexes := h.front
  rw [spelled_cons, List.append_assoc, List.append_assoc] at lexes
  exact ⟨rfl, lexes, fits.gap, fun _ ht => (trivia.append ht).gap _⟩

/-- The end of a token lies behind its lexeme. -/
theorem joint_behind {before after : List Lexeme} {lexeme : Lexeme} {last : List Char}
    (h : Lexes [] (before ++ lexeme :: after) last) :
    Joint (spelled before ++ lexeme.gap ++ lexeme.token.text.toList) (spelled after ++ last)
      (before ++ [lexeme]) [] := by
  rw [List.append_cons] at h
  refine ⟨?_, h.front, .nil, fun _ ht => ht.gap _⟩
  simp [spelled_append]

/-- The place of a token tells where in the text it stands. -/
theorem split_at_token {start rest last : List Char} {before after : List Lexeme} {lexeme : Lexeme}
    (lexes : Lexes [] (before ++ lexeme :: after) last)
    (whole : start ++ rest = spelled (before ++ lexeme :: after) ++ last)
    (place : placeAfter start = lexeme.token.position) :
    start = spelled before ++ lexeme.gap ∧
      rest = lexeme.token.text.toList ++ (spelled after ++ last) := by
  have parts : start ++ rest =
      (spelled before ++ lexeme.gap) ++ (lexeme.token.text.toList ++ (spelled after ++ last)) := by
    rw [whole]
    simp [spelled_append]
  have fits := lexes before lexeme after rfl
  obtain rfl : start = spelled before ++ lexeme.gap := by
    refine eq_of_placeAfter_eq parts ?_
    rw [place, fits.position, List.nil_append]
  exact ⟨rfl, List.append_cancel_left parts⟩

/-- Layout is put in at joints of a lexing. -/
theorem exists_joint_of_boundary {front back : List Char} {tokens : List Token}
    (lexing : IsLexing (String.ofList (front ++ back)) tokens) (h : Boundary front back tokens) :
    ∃ lexemes gap, Joint front back lexemes gap := by
  obtain ⟨lexemes, last, whole, lexes, hg, rfl⟩ := lexing
  rw [String.toList_ofList] at whole h
  have atEnd : back = [] → ∃ lexemes gap, Joint front back lexemes gap := by
    rintro rfl
    rw [List.append_nil] at whole
    rw [← List.append_nil last] at lexes
    exact ⟨lexemes, last, whole, lexes, hg, fun _ ht => gap_append_trivia_end hg ht⟩
  cases h with
  | start empty =>
    subst empty
    exact ⟨[], [], rfl, lexes_nil _ _, .nil, fun _ ht => ht.gap back⟩
  | finish empty => exact atEnd empty
  | ahead hm place =>
    rcases List.mem_append.1 hm with hm | hm
    · obtain ⟨lexeme, hl, rfl⟩ := List.mem_map.1 hm
      obtain ⟨before, after, rfl⟩ := List.append_of_mem hl
      obtain ⟨rfl, rfl⟩ := split_at_token lexes whole place
      exact ⟨_, _, joint_ahead lexes⟩
    · obtain rfl := List.mem_singleton.1 hm
      exact atEnd (placeAfter_append_injective place.symm)
  | @behind _ start hm split place =>
    rcases List.mem_append.1 hm with hm | hm
    · obtain ⟨lexeme, hl, rfl⟩ := List.mem_map.1 hm
      obtain ⟨before, after, rfl⟩ := List.append_of_mem hl
      rw [split, List.append_assoc] at whole
      obtain ⟨rfl, rest⟩ := split_at_token lexes whole place
      obtain rfl := List.append_cancel_left rest
      rw [split]
      exact ⟨_, _, joint_behind lexes⟩
    · -- the token that closes the text has no text of its own
      obtain rfl := List.mem_singleton.1 hm
      obtain rfl : front = start := split.trans (List.append_nil start)
      exact atEnd (placeAfter_append_injective place.symm)

/-! ## Texts without their places -/

/-- A stream with nothing left of its places. -/
def Stream.forget (stream : Stream) : Stream :=
  stream.relocate fun _ => .start

/-- Behind lexemes and a gap, a text goes on as if it started there. -/
theorem forget_scan_lexes {before gap back : List Char} {lexemes : List Lexeme}
    (lexes : Lexes before lexemes (gap ++ back)) (skipped : Gap back gap) :
    (Stream.scan (placeAfter before) (spelled lexemes ++ (gap ++ back))).forget =
      ⟨lexemes.map (fun lexeme => lexeme.token.relocate fun _ => .start) ++
          (Stream.scan .start back).forget.tokens,
        (Stream.scan .start back).forget.ending⟩ := by
  rw [scan_lexes lexes, scan_gap skipped, Stream.forget, Stream.forget,
    scan_forget .start ((placeAfter (before ++ spelled lexemes)).after gap) back]
  simp [Stream.relocate]

/-- Trivia at a joint change the places of a text and nothing else. -/
theorem Joint.forget_ofText {front back trivia : List Char} {lexemes : List Lexeme}
    {gap : List Char} (h : Joint front back lexemes gap) (ht : Trivia trivia) :
    (Stream.ofText (String.ofList (front ++ trivia ++ back))).forget =
      (Stream.ofText (String.ofList (front ++ back))).forget := by
  obtain ⟨rfl, lexes, skipped, joins⟩ := h
  by_cases empty : trivia = []
  · rw [empty, List.append_nil]
  · have joined := joins trivia ht
    have ends : Stops isWordPart (gap ++ trivia ++ back) :=
      joined.stops_isWordPart (by simp [empty]) back
    have edited := forget_scan_lexes (lexes.change_rest ends) joined
    have plain := forget_scan_lexes lexes skipped
    rw [Stream.ofText, Stream.ofText, String.toList_ofList, String.toList_ofList]
    rw [List.append_assoc (spelled lexemes) gap back, List.append_assoc (spelled lexemes) gap trivia,
      List.append_assoc (spelled lexemes) (gap ++ trivia) back]
    exact edited.trans plain.symm

section Forgotten

variable {source other : String} {tokens : List Token}

theorem map_word_forget (stream : Stream) :
    stream.forget.tokens.map Token.word = stream.tokens.map Token.word := by
  rw [Stream.forget, Stream.relocate, List.map_map]
  rfl

/-- Texts that differ in places only have the same words. -/
theorem words_of_forget (h : (Stream.ofText other).forget = (Stream.ofText source).forget)
    (ht : tokenize source = .ok tokens) :
    ∃ others, tokenize other = .ok others ∧ others.map Token.word = tokens.map Token.word := by
  have endings : (Stream.ofText other).ending.relocate _ = (Stream.ofText source).ending.relocate _ :=
    congrArg Stream.ending h
  have words : (Stream.ofText other).tokens.map Token.word =
      (Stream.ofText source).tokens.map Token.word := by
    rw [← map_word_forget, h, map_word_forget]
  rw [tokenize_eq] at ht ⊢
  split at ht
  · rename_i position ending
    obtain rfl := Except.ok.inj ht
    rw [ending] at endings
    cases theirs : (Stream.ofText other).ending with
    | fault fault =>
      rw [theirs] at endings
      cases endings
    | eof place =>
      refine ⟨_, rfl, ?_⟩
      rw [List.map_append, List.map_append, words]
      rfl
  · cases ht

/-- The outcomes of two texts are the same, or both are refused at tokens that differ in their places
only. -/
inductive SameUpToPlace {ε α : Type} (refused : SyntaxFault → ε) : Except ε α → Except ε α → Prop
  | same (outcome : Except ε α) : SameUpToPlace refused outcome outcome
  | moved {fault found : SyntaxFault} : found.actual.word = fault.actual.word →
      found.expected = fault.expected →
      SameUpToPlace refused (.error (refused found)) (.error (refused fault))

/-- A text that can be cut up has no fault to report. -/
theorem parse_ne_lexical (ht : tokenize source = .ok tokens) (fault : LexFault) :
    parse source ≠ .error (.lexical fault) := by
  rw [parse_of_tokenize ht, parseTokens]
  cases State.initial.feed _ >>= _ with
  | error refused => rintro ⟨⟩
  | ok blocks =>
    show (Program.ofBlocks blocks).mapError _ ≠ _
    cases Program.ofBlocks blocks <;> rintro ⟨⟩

/-- Failures that are the same without their places. -/
theorem sameUpToPlace_of_relocate {theirs ours : Except ParseFailure Program}
    (h : theirs.mapError (ParseFailure.relocate fun _ => .start) =
      ours.mapError (ParseFailure.relocate fun _ => .start))
    (readable : ∀ fault, ours ≠ .error (.lexical fault)) : SameUpToPlace .grammar theirs ours := by
  cases ours with
  | ok program =>
    cases theirs with
    | ok found =>
      obtain rfl := Except.ok.inj h
      exact .same _
    | error => cases h
  | error ours =>
    cases theirs with
    | ok => cases h
    | error theirs =>
      have failures := Except.error.inj h
      cases ours with
      | lexical fault => exact absurd rfl (readable fault)
      | grammar fault =>
        cases theirs with
        | grammar found =>
          have faults := ParseFailure.grammar.inj failures
          have words := congrArg (fun fault : SyntaxFault => fault.actual.word) faults
          have kinds := congrArg SyntaxFault.expected faults
          exact .moved words kinds
        | lexical | value => cases failures
      | value token =>
        cases theirs with
        | value =>
          obtain rfl := ParseFailure.value.inj failures
          exact .same _
        | lexical | grammar => cases failures

/-- Texts that differ in places only are read alike. -/
theorem parse_of_forget (h : (Stream.ofText other).forget = (Stream.ofText source).forget)
    (ht : tokenize source = .ok tokens) :
    SameUpToPlace .grammar (parse other) (parse source) := by
  refine sameUpToPlace_of_relocate ?_ (parse_ne_lexical ht)
  rw [parse, parse, ← parse_relocate, ← parse_relocate]
  exact congrArg Stream.parse h

/-- What is read alike is compiled alike. -/
theorem compile_of_parse (h : SameUpToPlace .grammar (parse other) (parse source))
    (requested : Option Target) (settings : Settings) (sourceName outputName : Option RawText) :
    SameUpToPlace (fun fault => .error (.grammar fault))
      (compile requested settings sourceName outputName other)
      (compile requested settings sourceName outputName source) := by
  generalize theirs : parse other = their, ours : parse source = our at h
  cases h with
  | same =>
    rw [compile_congr (theirs.trans ours.symm)]
    exact .same _
  | moved word expected =>
    rw [compile_of_parse_error theirs, compile_of_parse_error ours]
    exact .moved word expected

end Forgotten

/-- **Layout never changes meaning.** Where a text can be cut up into tokens, put blanks and comments
in at its start, at its end, or at the start or the end of a token. The text then has the same tokens
but for their places. It has the same tree, or it is refused at the same token for want of the same
kinds; and what is compiled from it is the same file or the same failure, but for the place of a token
that is refused. -/
theorem layout_insertion {front back trivia : List Char} {tokens : List Token}
    (source : tokenize (String.ofList (front ++ back)) = .ok tokens)
    (boundary : Boundary front back tokens) (ht : Trivia trivia) :
    (∃ others, tokenize (String.ofList (front ++ trivia ++ back)) = .ok others ∧
      others.map Token.word = tokens.map Token.word) ∧
    SameUpToPlace .grammar (parse (String.ofList (front ++ trivia ++ back)))
      (parse (String.ofList (front ++ back))) ∧
    ∀ requested settings sourceName outputName,
      SameUpToPlace (fun fault => .error (.grammar fault))
        (compile requested settings sourceName outputName (String.ofList (front ++ trivia ++ back)))
        (compile requested settings sourceName outputName (String.ofList (front ++ back))) := by
  obtain ⟨lexemes, gap, joint⟩ := exists_joint_of_boundary (tokenize_iff.1 source) boundary
  have forgotten := joint.forget_ofText ht
  have parsed := parse_of_forget forgotten source
  exact ⟨words_of_forget forgotten source, parsed, compile_of_parse parsed⟩

/-- A comment that holds a quote is put in between a numeral and a mark. -/
theorem layout_insertion_inside_range :
    tokenize "7..9//" = .ok [⟨.integer, "7", 1, 1⟩, ⟨.mark .range, "..", 1, 2⟩,
      ⟨.integer, "9", 1, 4⟩, ⟨.eof, "", 1, 7⟩] ∧
    (∃ others, tokenize "7// \"\n..9//" = .ok others ∧
      others.map Token.word =
        [⟨.integer, "7"⟩, ⟨.mark .range, ".."⟩, ⟨.integer, "9"⟩, ⟨.eof, ""⟩]) ∧
    SameUpToPlace .grammar (parse "7// \"\n..9//") (parse "7..9//") := by
  have stream : Stream.ofText "7..9//" = ⟨[⟨.integer, "7", 1, 1⟩, ⟨.mark .range, "..", 1, 2⟩,
      ⟨.integer, "9", 1, 4⟩], .eof ⟨1, 7⟩⟩ := by
    decide +kernel
  have lexed := tokenize_eq "7..9//"
  rw [stream] at lexed
  have trivia : Trivia ['/', '/', ' ', '"', '\n'] := @Trivia.comment [' ', '"'] [] (by simp) .nil
  have edited := @layout_insertion "7".toList "..9//".toList _ _ lexed
    (@Boundary.ahead _ _ _ ⟨.mark .range, "..", 1, 2⟩ (by simp) (by decide)) trivia
  exact ⟨lexed, edited.1, edited.2.1⟩

end HttpSuite
