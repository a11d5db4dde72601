import HttpSuite.Proofs.Terminals

/-!
# Lexing

A text is lexed by cutting it into lexemes, each a token with the gap in front of it. What a lexeme
has to be (`Lexeme.Fits`) speaks of the text around it only: the gap holds blanks and comments, the
token is the longest match of what follows the gap, and it stands where the gap ends.

Three facts compose to the correctness of `tokenize`:

* **Skipping** (`scan_gap`, `scan_token`): what `Stream.scan` does with a gap and with a token.
* **Replay** (`scan_lexes`): scanning a text that was put together from fitting lexemes gives their
  tokens back, whatever follows the text.
* **Cutting** (`exists_cutUp`): every text is such a text, up to its end or to the first place where
  nothing fits.
-/

namespace HttpSuite.Lexing

/-! ## Places -/

/-- The place behind a text: one line for each line feed, and one column for each character since
the last of them, both counted from one. -/
def placeAfter (before : List Char) : Position :=
  ⟨1 + before.count '\n', 1 + (before.reverse.takeWhile (· != '\n')).length⟩

theorem placeAfter_next (before : List Char) (c : Char) :
    (placeAfter before).next c = placeAfter (before ++ [c]) := by
  by_cases hc : c = '\n'
  · subst hc
    simp [placeAfter, Position.next]
    omega
  · have skipped : (c != '\n') = true := by simpa using hc
    simp [placeAfter, Position.next, hc, skipped]
    omega

/-- Counting on from the place behind a text. -/
theorem placeAfter_after (before text : List Char) :
    (placeAfter before).after text = placeAfter (before ++ text) := by
  induction text generalizing before with
  | nil => simp [Position.after]
  | cons c cs ih =>
    show ((placeAfter before).next c).after cs = placeAfter (before ++ c :: cs)
    rw [placeAfter_next, ih, List.append_assoc, List.singleton_append]

/-! ## Gaps and lexemes -/

/-- What may stand between two tokens, in front of a text: blanks and comments. A comment goes on to
the end of its line. -/
inductive Gap (rest : List Char) : List Char → Prop
  | nil : Gap rest []
  | blank {c gap} : isLayout c → Gap rest gap → Gap rest (c :: gap)
  | comment {cs gap} : (∀ c ∈ cs, c ≠ '\n') → Stops (· != '\n') (gap ++ rest) → Gap rest gap →
      Gap rest ('/' :: '/' :: cs ++ gap)

/-- A token with the gap in front of it. -/
structure Lexeme where
  gap : List Char
  token : Token

/-- The text that lexemes were read from. -/
def spelled (lexemes : List Lexeme) : List Char :=
  lexemes.flatMap fun lexeme => lexeme.gap ++ lexeme.token.text.toList

/-- A lexeme is right for its place between two texts. -/
structure Lexeme.Fits (before : List Char) (lexeme : Lexeme) (rest : List Char) : Prop where
  gap : Gap (lexeme.token.text.toList ++ rest) lexeme.gap
  longest : Longest lexeme.token.kind lexeme.token.text.toList rest
  position : lexeme.token.position = placeAfter (before ++ lexeme.gap)

/-- Every one of the lexemes is right for its place. -/
def Lexes (before : List Char) (lexemes : List Lexeme) (rest : List Char) : Prop :=
  ∀ front lexeme back, lexemes = front ++ lexeme :: back →
    lexeme.Fits (before ++ spelled front) (spelled back ++ rest)

/-- The tokens of a whole text, with the one that closes it. -/
def IsLexing (source : String) (tokens : List Token) : Prop :=
  ∃ lexemes last, source.toList = spelled lexemes ++ last ∧ Lexes [] lexemes last ∧ Gap [] last ∧
    tokens = lexemes.map Lexeme.token ++ [⟨.eof, "", placeAfter source.toList⟩]

@[simp] theorem spelled_nil : spelled [] = [] := by
  rw [spelled, List.flatMap_nil]

@[simp] theorem spelled_cons (lexeme : Lexeme) (lexemes : List Lexeme) :
    spelled (lexeme :: lexemes) = lexeme.gap ++ lexeme.token.text.toList ++ spelled lexemes := rfl

theorem lexes_nil (before rest : List Char) : Lexes before [] rest := by
  intro front lexeme back split
  simp at split

/-- Lexemes are right one after the other. -/
theorem lexes_cons_iff {before rest : List Char} {lexeme : Lexeme} {lexemes : List Lexeme} :
    Lexes before (lexeme :: lexemes) rest ↔ lexeme.Fits before (spelled lexemes ++ rest) ∧
      Lexes (before ++ (lexeme.gap ++ lexeme.token.text.toList)) lexemes rest := by
  constructor
  · intro h
    refine ⟨?_, ?_⟩
    · simpa using h [] lexeme lexemes rfl
    · intro front other back split
      have fits := h (lexeme :: front) other back (by rw [split, List.cons_append])
      simpa using fits
  · rintro ⟨first, others⟩ front other back split
    cases front with
    | nil =>
      obtain ⟨rfl, rfl⟩ := List.cons.inj split
      simpa using first
    | cons head front =>
      obtain ⟨rfl, split'⟩ := List.cons.inj split
      simpa using others front other back split'

/-! ## Scanning -/

/-- One step of scanning. -/
theorem scan_cut {cs : List Char} {piece : Piece} (position : Position) (h : Cuts cs piece) :
    Stream.scan position cs = (Stream.scan (position.after piece.text) piece.rest).push
      (piece.kind.map fun kind => ⟨kind, String.ofList piece.text, position⟩) := by
  have first := first_of_cuts h
  have ne : cs.isEmpty = false := by
    cases cs with
    | nil => simp [Piece.first] at first
    | cons c cs => rfl
  rw [Stream.scan, ne, if_neg Bool.false_ne_true]
  split
  · rename_i none
    rw [none] at first
    cases first
  · rename_i found some
    obtain rfl : found = piece := Option.some.inj (some.symm.trans first)
    rfl

/-- Scanning skips a gap. -/
theorem scan_gap {gap rest : List Char} (h : Gap rest gap) (position : Position) :
    Stream.scan position (gap ++ rest) = Stream.scan (position.after gap) rest := by
  induction h generalizing position with
  | nil => rfl
  | @blank c gap hc _ ih =>
    rw [List.cons_append, scan_cut position (Cuts.blank hc)]
    exact ih _
  | @comment cs gap hcs stops _ ih =>
    rw [List.append_assoc, scan_cut position (Cuts.comment hcs stops)]
    show Stream.scan _ (gap ++ rest) = _
    rw [ih, Position.after, Position.after, Position.after, List.foldl_append]

/-- Scanning takes a token. -/
theorem scan_token {kind : Kind} {text rest : List Char} (h : Longest kind text rest)
    (position : Position) :
    Stream.scan position (text ++ rest) = (Stream.scan (position.after text) rest).push
      (some ⟨kind, String.ofList text, position⟩) :=
  scan_cut position (cuts_iff_longest.2 h)

/-- Where nothing fits, scanning ends. -/
theorem scan_stuck {stuck : List Char} (h : Piece.first stuck = none) (position : Position) :
    Stream.scan position stuck = ⟨[],
      if stuck.isEmpty then .eof position else .fault (.ofText position stuck)⟩ := by
  rw [Stream.scan]
  split
  · rfl
  · split
    · rfl
    · rename_i piece some
      rw [h] at some
      cases some

/-- Scanning gives back the tokens that a text was put together from. -/
theorem scan_lexes {before rest : List Char} {lexemes : List Lexeme}
    (h : Lexes before lexemes rest) :
    Stream.scan (placeAfter before) (spelled lexemes ++ rest) =
      ⟨lexemes.map Lexeme.token ++ (Stream.scan (placeAfter (before ++ spelled lexemes)) rest).tokens,
        (Stream.scan (placeAfter (before ++ spelled lexemes)) rest).ending⟩ := by
  -- `before` grows by one lexeme at a time, so the places stay right
  induction lexemes generalizing before with
  | nil => simp
  | cons lexeme lexemes ih =>
    obtain ⟨fits, others⟩ := lexes_cons_iff.1 h
    rw [spelled_cons, List.append_assoc, List.append_assoc, scan_gap fits.gap, placeAfter_after,
      scan_token fits.longest, placeAfter_after, List.append_assoc before, ih others,
      ← fits.position, String.ofList_toList]
    simp [Stream.push]

/-! ## Cutting a text -/

/-- A skipped piece makes a gap longer. -/
theorem Gap.of_cut {cs text gap rest : List Char} (h : Cuts cs ⟨none, text, gap ++ rest⟩)
    (hg : Gap rest gap) : Gap rest (text ++ gap) := by
  generalize hp : (⟨none, text, gap ++ rest⟩ : Piece) = piece at h
  cases h with
  | blank hc =>
    cases hp
    exact .blank hc hg
  | comment hcs stops =>
    obtain ⟨-, rfl, rfl⟩ := Piece.mk.inj hp
    exact .comment hcs stops hg
  | word | integer | string | mark => cases hp

/-- A cut of a text into lexemes, up to a place where nothing fits. -/
structure CutUp (before cs : List Char) (lexemes : List Lexeme) (gap stuck : List Char) :
    Prop where
  whole : cs = spelled lexemes ++ (gap ++ stuck)
  lexes : Lexes before lexemes (gap ++ stuck)
  gap : Gap stuck gap
  stuck : Piece.first stuck = none

/-- A skipped piece joins the gap behind it. -/
theorem CutUp.skip {before text rest gap stuck : List Char} {lexemes : List Lexeme}
    (h : CutUp (before ++ text) rest lexemes gap stuck)
    (cut : Cuts (text ++ rest) ⟨none, text, rest⟩) :
    ∃ lexemes gap stuck, CutUp before (text ++ rest) lexemes gap stuck := by
  obtain ⟨rfl, lexes, hg, hs⟩ := h
  cases lexemes with
  | nil => exact ⟨[], text ++ gap, stuck, by simp, lexes_nil _ _, .of_cut cut hg, hs⟩
  | cons lexeme lexemes =>
    -- only the first lexeme changes, and its token stays where it was
    obtain ⟨fits, others⟩ := lexes_cons_iff.1 lexes
    rw [spelled_cons, List.append_assoc, List.append_assoc] at cut
    refine ⟨⟨text ++ lexeme.gap, lexeme.token⟩ :: lexemes, gap, stuck, by simp, ?_, hg, hs⟩
    refine lexes_cons_iff.2 ⟨⟨.of_cut cut fits.gap, fits.longest, ?_⟩, ?_⟩
    · rw [fits.position, List.append_assoc]
    · simpa using others

/-- A token starts a lexeme with no gap. -/
theorem CutUp.token {before text rest gap stuck : List Char} {lexemes : List Lexeme} {kind : Kind}
    (h : CutUp (before ++ text) rest lexemes gap stuck) (longest : Longest kind text rest) :
    ∃ lexemes gap stuck, CutUp before (text ++ rest) lexemes gap stuck := by
  obtain ⟨rfl, lexes, hg, hs⟩ := h
  refine ⟨⟨[], kind, String.ofList text, placeAfter before⟩ :: lexemes, gap, stuck, by simp, ?_,
    hg, hs⟩
  refine lexes_cons_iff.2 ⟨⟨.nil, ?_, ?_⟩, ?_⟩
  · simpa using longest
  · simp
  · simpa using lexes

/-- Every text is cut up, step by step as it is scanned. -/
theorem exists_cutUp (before cs : List Char) :
    ∃ lexemes gap stuck, CutUp before cs lexemes gap stuck := by
  cases first : Piece.first cs with
  | none => exact ⟨[], [], cs, rfl, lexes_nil _ _, .nil, first⟩
  | some piece =>
    have shorter := Piece.first_rest_length first
    have whole := Piece.first_append first
    have cut := first_iff.1 first
    obtain ⟨lexemes, gap, stuck, tail⟩ := exists_cutUp (before ++ piece.text) piece.rest
    obtain ⟨kind, text, rest⟩ := piece
    obtain rfl : text ++ rest = cs := whole
    cases kind with
    | none => exact tail.skip cut
    | some kind => exact tail.token (cuts_iff_longest.1 cut)
termination_by cs.length

/-! ## Whole texts -/

/-- The stream of a text that was cut up. -/
theorem CutUp.ofText {source : String} {lexemes : List Lexeme} {gap stuck : List Char}
    (h : CutUp [] source.toList lexemes gap stuck) :
    Stream.ofText source = ⟨lexemes.map Lexeme.token,
      if stuck.isEmpty then .eof (placeAfter (spelled lexemes ++ gap))
      else .fault (.ofText (placeAfter (spelled lexemes ++ gap)) stuck)⟩ := by
  have scanned := scan_lexes h.lexes
  rw [← h.whole, scan_gap h.gap, scan_stuck h.stuck, placeAfter_after, List.append_nil] at scanned
  exact scanned

theorem tokenize_eq (source : String) :
    tokenize source = match (Stream.ofText source).ending with
      | .eof position => .ok ((Stream.ofText source).tokens ++ [.endOfInput position])
      | .fault fault => .error fault := by
  rw [tokenize, Cursor.ofText, Cursor.rest]
  cases (Stream.ofText source).ending <;> rfl

theorem tokenize_of_cutUp {source : String} {lexemes : List Lexeme} {gap : List Char}
    (h : CutUp [] source.toList lexemes gap []) :
    tokenize source =
      .ok (lexemes.map Lexeme.token ++ [⟨.eof, "", placeAfter source.toList⟩]) := by
  rw [tokenize_eq, h.ofText, h.whole, List.append_nil]
  rfl

/-- Lexing succeeds with the right tokens, and with no others. -/
theorem tokenize_iff {source : String} {tokens : List Token} :
    tokenize source = .ok tokens ↔ IsLexing source tokens := by
  constructor
  · intro h
    obtain ⟨lexemes, gap, stuck, cut⟩ := exists_cutUp [] source.toList
    cases stuck with
    | nil =>
      rw [tokenize_of_cutUp cut] at h
      obtain ⟨whole, lexes, hg, -⟩ := cut
      rw [List.append_nil] at whole lexes
      exact ⟨lexemes, gap, whole, lexes, hg, (Except.ok.inj h).symm⟩
    | cons c cs =>
      rw [tokenize_eq, cut.ofText] at h
      cases h
  · rintro ⟨lexemes, last, whole, lexes, hg, rfl⟩
    rw [← List.append_nil last] at whole lexes
    exact tokenize_of_cutUp ⟨whole, lexes, hg, rfl⟩

/-- Each of the tokens is a longest match. -/
theorem Lexes.longest_of_mem {before rest : List Char} {lexemes : List Lexeme}
    (h : Lexes before lexemes rest) {token : Token} (hm : token ∈ lexemes.map Lexeme.token) :
    ∃ behind, Longest token.kind token.text.toList behind := by
  obtain ⟨lexeme, hl, rfl⟩ := List.mem_map.1 hm
  obtain ⟨front, back, split⟩ := List.append_of_mem hl
  exact ⟨_, (h front lexeme back split).longest⟩

/-- A token in a text is not the one that closes it. -/
theorem Longest.kind_ne_eof {kind : Kind} {text rest : List Char} (h : Longest kind text rest) :
    kind ≠ .eof := by
  rintro rfl
  exact h.matched

/-- The tokens of a stream are longest matches, whether or not the whole text can be lexed. -/
theorem longest_of_mem_ofText {source : String} {token : Token}
    (h : token ∈ (Stream.ofText source).tokens) :
    ∃ behind, Longest token.kind token.text.toList behind := by
  obtain ⟨lexemes, gap, stuck, cut⟩ := exists_cutUp [] source.toList
  rw [cut.ofText] at h
  exact cut.lexes.longest_of_mem h

theorem kind_ne_eof_of_mem_ofText {source : String} {token : Token}
    (h : token ∈ (Stream.ofText source).tokens) : token.kind ≠ .eof := by
  obtain ⟨behind, longest⟩ := longest_of_mem_ofText h
  exact longest.kind_ne_eof

/-- Lexing loses nothing of a text, places every token right and takes the longest match each time:
the tokens it finds are right for the text, only the last one closes it, and no other tokens are
right for it. -/
theorem tokenize_lossless {source : String} {tokens : List Token}
    (h : tokenize source = .ok tokens) :
    IsLexing source tokens ∧
      (∃ front, tokens = front ++ [⟨.eof, "", placeAfter source.toList⟩] ∧
        ∀ token ∈ front, token.kind ≠ .eof) ∧
      ∀ others, IsLexing source others → others = tokens := by
  have lexing := tokenize_iff.1 h
  refine ⟨lexing, ?_, ?_⟩
  · obtain ⟨lexemes, last, -, lexes, -, rfl⟩ := lexing
    refine ⟨lexemes.map Lexeme.token, rfl, ?_⟩
    intro token hm
    obtain ⟨behind, longest⟩ := lexes.longest_of_mem hm
    exact longest.kind_ne_eof
  · intro others ho
    rw [tokenize_iff.2 ho] at h
    exact Except.ok.inj h

/-- A word that starts like a reserved one, a comment, and marks without blanks between them. -/
theorem tokenize_lossless_across_comment :
    tokenize "in0 // \"\n7..\"a\"" = .ok [⟨.identifier, "in0", 1, 1⟩, ⟨.integer, "7", 2, 1⟩,
      ⟨.mark .range, "..", 2, 2⟩, ⟨.string, "\"a\"", 2, 4⟩, ⟨.eof, "", 2, 7⟩] ∧
    IsLexing "in0 // \"\n7..\"a\"" [⟨.identifier, "in0", 1, 1⟩, ⟨.integer, "7", 2, 1⟩,
      ⟨.mark .range, "..", 2, 2⟩, ⟨.string, "\"a\"", 2, 4⟩, ⟨.eof, "", 2, 7⟩] := by
  have stream : Stream.ofText "in0 // \"\n7..\"a\"" = ⟨[⟨.identifier, "in0", 1, 1⟩,
      ⟨.integer, "7", 2, 1⟩, ⟨.mark .range, "..", 2, 2⟩, ⟨.string, "\"a\"", 2, 4⟩],
      .eof ⟨2, 7⟩⟩ := by
    decide +kernel
  have lexed := tokenize_eq "in0 // \"\n7..\"a\""
  rw [stream] at lexed
  exact ⟨lexed, (tokenize_lossless lexed).1⟩

end HttpSuite.Lexing
