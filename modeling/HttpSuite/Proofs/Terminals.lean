import HttpSuite.Token.Stream
import Mathlib.Data.List.TakeWhile

/-!
# Terminals

What the terminals of the language match, and what is cut off the front of a text. Both are said
without regard to how lexing goes about it:

* `Longest` — a token at the front of a text: it matches its kind, no terminal matches more, and a
  word counts as reserved exactly if it is one of the `reservedWords`;
* `Cuts` — the pieces that can be cut off, one rule for each sort of piece.

`Piece.first` cuts off what the rules allow (`first_iff`), and the rules for tokens allow exactly the
longest matches (`cuts_iff_longest`): where some terminal matches, a piece is cut off that is at
least as long (`exists_cut_of_matches`, `exists_cut_of_gap`), and there is one cut only.
-/

namespace HttpSuite.Lexing

/-! ## What terminals match -/

/-- The texts that a kind of token can have. -/
def KindMatches : Kind → List Char → Prop
  | .keyword word, text => text = word.text.toList
  | .method verb, text => text = verb.text.toList
  | .identifier, text => ∃ c cs, text = c :: cs ∧ isWordStart c ∧ ∀ d ∈ cs, isWordPart d
  | .string, text => ∃ cs, text = '"' :: cs ++ ['"'] ∧ ∀ c ∈ cs, c ≠ '"' ∧ c ≠ '\n'
  | .integer, text => text ≠ [] ∧ ∀ c ∈ text, c.isDigit
  | .mark punctuation, text => text = punctuation.text.toList
  | .eof, _ => False

/-- The terminals of the language: the kinds of token, and what stands between tokens. -/
inductive Terminal
  | token (kind : Kind)
  | blanks
  | comment

/-- The texts that a terminal matches. -/
def Terminal.Matches : Terminal → List Char → Prop
  | .token kind, text => KindMatches kind text
  | .blanks, text => text ≠ [] ∧ ∀ c ∈ text, isLayout c
  | .comment, text => ∃ cs, text = '/' :: '/' :: cs ∧ ∀ c ∈ cs, c ≠ '\n'

/-- The words that are no identifiers. -/
def reservedWords : List String :=
  ["test", "expect", "status", "body", "contains", "header", "in", "GET", "POST", "PUT", "DELETE"]

/-- A text counts as a keyword or a verb exactly if it is a reserved word. -/
def ReservedRule (kind : Kind) (text : List Char) : Prop :=
  kind.isKeyword ∨ kind.isMethod ↔ String.ofList text ∈ reservedWords

/-- A token of a kind at the front of a text: it matches the kind, no terminal matches more of the
text, and reserved words are no identifiers. -/
structure Longest (kind : Kind) (text rest : List Char) : Prop where
  matched : KindMatches kind text
  longest : ∀ (terminal : Terminal) (part : List Char), part <+: text ++ rest →
    terminal.Matches part → part.length ≤ text.length
  reserved : ReservedRule kind text

/-! ## Character classes -/

/-- A run of a class ends here: the rest is empty or starts with another character. -/
def Stops (inClass : Char → Bool) (rest : List Char) : Prop :=
  ∀ c cs, rest = c :: cs → inClass c = false

theorem takeWhile_append_of_stops {inClass : Char → Bool} {run rest : List Char}
    (hr : ∀ c ∈ run, inClass c) (hs : Stops inClass rest) :
    (run ++ rest).takeWhile inClass = run := by
  rw [List.takeWhile_append_of_pos hr]
  cases rest with
  | nil => simp
  | cons c cs => simp [hs c cs rfl]

theorem dropWhile_append_of_stops {inClass : Char → Bool} {run rest : List Char}
    (hr : ∀ c ∈ run, inClass c) (hs : Stops inClass rest) :
    (run ++ rest).dropWhile inClass = rest := by
  rw [List.dropWhile_append_of_pos hr]
  cases rest with
  | nil => rfl
  | cons c cs => simp [hs c cs rfl]

theorem stops_dropWhile (inClass : Char → Bool) (cs : List Char) :
    Stops inClass (cs.dropWhile inClass) := by
  intro c rest h
  have := List.head?_dropWhile_not inClass cs
  rw [h] at this
  simpa using this

theorem isLayout_iff {c : Char} :
    isLayout c ↔ c = ' ' ∨ c = '\t' ∨ c = '\x0c' ∨ c = '\r' ∨ c = '\n' := by
  simp [isLayout, or_assoc]

theorem isStringPart_iff {c : Char} : isStringPart c ↔ c ≠ '"' ∧ c ≠ '\n' := by
  simp [isStringPart]

theorem not_isLayout_of_isWordStart {c : Char} (h : isWordStart c) : isLayout c = false := by
  rw [Bool.eq_false_iff]
  intro hl
  rcases isLayout_iff.1 hl with rfl | rfl | rfl | rfl | rfl <;> exact absurd h (by decide)

theorem not_isLayout_of_isDigit {c : Char} (h : c.isDigit) : isLayout c = false := by
  rw [Bool.eq_false_iff]
  intro hl
  rcases isLayout_iff.1 hl with rfl | rfl | rfl | rfl | rfl <;> exact absurd h (by decide)

theorem not_isWordStart_of_isDigit {c : Char} (h : c.isDigit) : isWordStart c = false := by
  rw [Bool.eq_false_iff]
  intro hw
  have digit : (decide (48 ≤ c.val) && decide (c.val ≤ 57)) = true := h
  have letter : ((decide (65 ≤ c.val ∧ c.val ≤ 90) ||
      (decide (97 ≤ c.val) && decide (c.val ≤ 122))) || c == '_') = true := hw
  simp only [Bool.or_eq_true, Bool.and_eq_true, decide_eq_true_eq, beq_iff_eq,
    UInt32.le_iff_toNat_le, UInt32.reduceToNat] at digit letter
  rcases letter with (letter | letter) | rfl
  · omega
  · omega
  · exact absurd h (by decide)

/-! ## Cuts -/

/-- The pieces that can be cut off the front of a text. -/
inductive Cuts : List Char → Piece → Prop
  | blank {c rest} : isLayout c → Cuts (c :: rest) ⟨none, [c], rest⟩
  | comment {cs rest} :
      (∀ c ∈ cs, c ≠ '\n') → Stops (· != '\n') rest →
      Cuts ('/' :: '/' :: cs ++ rest) ⟨none, '/' :: '/' :: cs, rest⟩
  | word {c cs rest} :
      isWordStart c → (∀ d ∈ cs, isWordPart d) → Stops isWordPart rest →
      Cuts (c :: cs ++ rest) ⟨some (Kind.ofWord (String.ofList (c :: cs))), c :: cs, rest⟩
  | integer {c cs rest} :
      c.isDigit → (∀ d ∈ cs, d.isDigit) → Stops Char.isDigit rest →
      Cuts (c :: cs ++ rest) ⟨some .integer, c :: cs, rest⟩
  | string {cs rest} :
      (∀ c ∈ cs, c ≠ '"' ∧ c ≠ '\n') →
      Cuts ('"' :: cs ++ '"' :: rest) ⟨some .string, '"' :: cs ++ ['"'], rest⟩
  | mark {punctuation rest} :
      Cuts (punctuation.text.toList ++ rest)
        ⟨some (.mark punctuation), punctuation.text.toList, rest⟩

theorem cuts_of_first {cs : List Char} {piece : Piece} (h : Piece.first cs = some piece) :
    Cuts cs piece := by
  unfold Piece.first at h
  split at h
  · cases h
  · rename_i c cs
    split at h
    · rename_i hl
      obtain rfl := Option.some.inj h
      exact .blank hl
    split at h
    · rename_i hw
      obtain rfl := Option.some.inj h
      have run : ∀ d ∈ cs.takeWhile isWordPart, isWordPart d := fun _ => List.mem_takeWhile_imp
      have cut := Cuts.word hw run (stops_dropWhile isWordPart cs)
      rwa [List.cons_append, List.takeWhile_append_dropWhile] at cut
    split at h
    · rename_i hd
      obtain rfl := Option.some.inj h
      have run : ∀ d ∈ cs.takeWhile Char.isDigit, d.isDigit := fun _ => List.mem_takeWhile_imp
      have cut := Cuts.integer hd run (stops_dropWhile Char.isDigit cs)
      rwa [List.cons_append, List.takeWhile_append_dropWhile] at cut
    split at h
    · obtain rfl := Option.some.inj h
      exact @Cuts.mark .openBrace _
    · obtain rfl := Option.some.inj h
      exact @Cuts.mark .closeBrace _
    · obtain rfl := Option.some.inj h
      exact @Cuts.mark .semicolon _
    · obtain rfl := Option.some.inj h
      exact @Cuts.mark .equals _
    · obtain rfl := Option.some.inj h
      exact @Cuts.mark .range _
    · rename_i cs _ _ _
      obtain rfl := Option.some.inj h
      have run : ∀ d ∈ cs.takeWhile (· != '\n'), d ≠ '\n' := by
        intro d hd
        simpa using @List.mem_takeWhile_imp _ (· != '\n') cs d hd
      have cut := Cuts.comment run (stops_dropWhile (· != '\n') cs)
      rwa [List.cons_append, List.cons_append, List.takeWhile_append_dropWhile] at cut
    · split at h
      · rename_i rest hrest
        obtain rfl := Option.some.inj h
        have run : ∀ d ∈ cs.takeWhile isStringPart, d ≠ '"' ∧ d ≠ '\n' :=
          fun _ hd => isStringPart_iff.1 (List.mem_takeWhile_imp hd)
        have cut := @Cuts.string _ rest run
        rwa [List.cons_append, ← hrest, List.takeWhile_append_dropWhile] at cut
      · cases h
    · cases h

theorem first_of_cuts {cs : List Char} {piece : Piece} (h : Cuts cs piece) :
    Piece.first cs = some piece := by
  cases h with
  | blank hl => simp [Piece.first, hl, Piece.single]
  | @comment cs rest hc hs =>
    have run : ∀ c ∈ cs, (c != '\n') = true := fun c hm => bne_iff_ne.2 (hc c hm)
    have taken := takeWhile_append_of_stops run hs
    have dropped := dropWhile_append_of_stops run hs
    -- a slash is neither a blank nor the start of a word or of a numeral
    simp only [List.cons_append, Piece.first]
    rw [if_neg (by decide), if_neg (by decide), if_neg (by decide), taken, dropped]
  | @word c cs rest hw hc hs =>
    rw [List.cons_append]
    unfold Piece.first
    dsimp only
    rw [if_neg (by simp [not_isLayout_of_isWordStart hw]), if_pos hw,
      takeWhile_append_of_stops hc hs, dropWhile_append_of_stops hc hs]
  | @integer c cs rest hd hc hs =>
    rw [List.cons_append]
    unfold Piece.first
    dsimp only
    rw [if_neg (by simp [not_isLayout_of_isDigit hd]),
      if_neg (by simp [not_isWordStart_of_isDigit hd]), if_pos hd,
      takeWhile_append_of_stops hc hs, dropWhile_append_of_stops hc hs]
  | @string cs rest hc =>
    have stops : Stops isStringPart ('"' :: rest) := by
      rintro c cs ⟨⟩
      decide
    have run : ∀ c ∈ cs, isStringPart c := fun c hm => isStringPart_iff.2 (hc c hm)
    have taken := takeWhile_append_of_stops run stops
    have dropped := dropWhile_append_of_stops run stops
    simp only [List.cons_append, Piece.first]
    rw [if_neg (by decide), if_neg (by decide), if_neg (by decide), taken, dropped]
    rfl
  | @mark punctuation rest => cases punctuation <;> rfl

/-- The first piece of a text, characterised. -/
theorem first_iff {cs : List Char} {piece : Piece} : Piece.first cs = some piece ↔ Cuts cs piece :=
  ⟨cuts_of_first, first_of_cuts⟩

/-! ## Reserved words -/

theorem ofWord_keyword (word : Keyword) : Kind.ofWord word.text = .keyword word := by
  cases word <;> decide

theorem ofWord_method (verb : Method) : Kind.ofWord verb.text = .method verb := by
  cases verb <;> decide

theorem keyword_mem_reservedWords (word : Keyword) : word.text ∈ reservedWords := by
  cases word <;> decide

theorem method_mem_reservedWords (verb : Method) : verb.text ∈ reservedWords := by
  cases verb <;> decide

theorem map_fst_reserved : Kind.reserved.map Prod.fst = reservedWords := by
  decide

theorem ofWord_of_not_mem {word : String} (h : word ∉ reservedWords) :
    Kind.ofWord word = .identifier := by
  have none : Kind.reserved.lookup word = none := by
    rw [List.lookup_eq_none_iff]
    intro entry hm
    rw [bne_iff_ne]
    rintro rfl
    exact h (map_fst_reserved ▸ List.mem_map_of_mem hm)
  rw [Kind.ofWord, none]
  rfl

/-- The reserved words are the spellings of the keywords and of the verbs. -/
theorem exists_of_mem_reservedWords {word : String} (h : word ∈ reservedWords) :
    (∃ keyword : Keyword, keyword.text = word) ∨ ∃ verb : Method, verb.text = word := by
  simp only [reservedWords, List.mem_cons, List.not_mem_nil, or_false] at h
  rcases h with rfl | rfl | rfl | rfl | rfl | rfl | rfl | rfl | rfl | rfl | rfl
  · exact .inl ⟨.test, rfl⟩
  · exact .inl ⟨.expect, rfl⟩
  · exact .inl ⟨.status, rfl⟩
  · exact .inl ⟨.body, rfl⟩
  · exact .inl ⟨.contains, rfl⟩
  · exact .inl ⟨.header, rfl⟩
  · exact .inl ⟨.within, rfl⟩
  · exact .inr ⟨.get, rfl⟩
  · exact .inr ⟨.post, rfl⟩
  · exact .inr ⟨.put, rfl⟩
  · exact .inr ⟨.delete, rfl⟩

/-- A word has the kind that it is given, and counts as reserved exactly if it is a reserved word. -/
theorem ofWord_spec {text : List Char} (h : KindMatches .identifier text) :
    KindMatches (Kind.ofWord (String.ofList text)) text ∧
      ReservedRule (Kind.ofWord (String.ofList text)) text := by
  by_cases reserved : String.ofList text ∈ reservedWords
  · rcases exists_of_mem_reservedWords reserved with ⟨word, spelled⟩ | ⟨verb, spelled⟩
    · rw [← spelled, ofWord_keyword]
      refine ⟨?_, ?_⟩
      · change text = word.text.toList
        rw [spelled, String.toList_ofList]
      · simp [ReservedRule, reserved, Kind.isKeyword]
    · rw [← spelled, ofWord_method]
      refine ⟨?_, ?_⟩
      · change text = verb.text.toList
        rw [spelled, String.toList_ofList]
      · simp [ReservedRule, reserved, Kind.isMethod]
  · rw [ofWord_of_not_mem reserved]
    exact ⟨h, by simp [ReservedRule, reserved, Kind.isMethod, Kind.isKeyword]⟩

/-- Kinds of words. -/
inductive WordKind : Kind → Prop
  | keyword (word : Keyword) : WordKind (.keyword word)
  | method (verb : Method) : WordKind (.method verb)
  | identifier : WordKind .identifier

/-- Reserved words are words. -/
theorem WordKind.identifier_of_matches {kind : Kind} {text : List Char} (hk : WordKind kind)
    (h : KindMatches kind text) : KindMatches .identifier text := by
  cases hk with
  | keyword word =>
    obtain rfl : text = word.text.toList := h
    cases word <;> exact ⟨_, _, rfl, by decide, List.all_eq_true.1 (by decide)⟩
  | method verb =>
    obtain rfl : text = verb.text.toList := h
    cases verb <;> exact ⟨_, _, rfl, by decide, List.all_eq_true.1 (by decide)⟩
  | identifier => exact h

theorem WordKind.ofWord_eq {kind : Kind} {text : List Char} (hk : WordKind kind)
    (h : KindMatches kind text) (hr : ReservedRule kind text) :
    Kind.ofWord (String.ofList text) = kind := by
  cases hk with
  | keyword word =>
    obtain rfl : text = word.text.toList := h
    rw [String.ofList_toList, ofWord_keyword]
  | method verb =>
    obtain rfl : text = verb.text.toList := h
    rw [String.ofList_toList, ofWord_method]
  | identifier =>
    apply ofWord_of_not_mem
    intro reserved
    simpa [Kind.isKeyword, Kind.isMethod] using hr.2 reserved

/-! ## Longest matches -/

/-- What a class leaves of a text that goes on with a run. -/
theorem run_append {inClass : Char → Bool} {run : List Char} (rest : List Char)
    (h : ∀ c ∈ run, inClass c) :
    (∀ c ∈ run ++ rest.takeWhile inClass, inClass c) ∧
      run ++ rest = (run ++ rest.takeWhile inClass) ++ rest.dropWhile inClass := by
  constructor
  · intro c hc
    rcases List.mem_append.1 hc with hc | hc
    · exact h c hc
    · exact List.mem_takeWhile_imp hc
  · rw [List.append_assoc, List.takeWhile_append_dropWhile]

theorem exists_cut_of_word {kind : Kind} {part : List Char} (hk : WordKind kind)
    (h : KindMatches kind part) (rest : List Char) :
    ∃ found text back, Cuts (part ++ rest) ⟨some found, text, back⟩ ∧ part.length ≤ text.length ∧
      (text = part → ReservedRule kind part → found = kind) := by
  obtain ⟨c, cs, rfl, hc, hcs⟩ := hk.identifier_of_matches h
  obtain ⟨run, whole⟩ := run_append rest hcs
  refine ⟨Kind.ofWord (String.ofList (c :: (cs ++ rest.takeWhile isWordPart))),
    c :: (cs ++ rest.takeWhile isWordPart), rest.dropWhile isWordPart, ?_, by simp, ?_⟩
  · rw [List.cons_append, whole]
    exact .word hc run (stops_dropWhile isWordPart rest)
  · intro same rule
    rw [same]
    exact hk.ofWord_eq h rule

/-- Where a token could be read, one is cut off that is at least as long. -/
theorem exists_cut_of_matches {kind : Kind} {part : List Char} (h : KindMatches kind part)
    (rest : List Char) :
    ∃ found text back, Cuts (part ++ rest) ⟨some found, text, back⟩ ∧ part.length ≤ text.length ∧
      (text = part → ReservedRule kind part → found = kind) := by
  cases kind with
  | keyword word => exact exists_cut_of_word (.keyword word) h rest
  | method verb => exact exists_cut_of_word (.method verb) h rest
  | identifier => exact exists_cut_of_word .identifier h rest
  | string =>
    obtain ⟨cs, rfl, hcs⟩ := h
    refine ⟨.string, _, rest, ?_, le_refl _, fun _ _ => rfl⟩
    have cut := @Cuts.string cs rest hcs
    simpa using cut
  | integer =>
    obtain ⟨ne, digits⟩ := h
    cases part with
    | nil => exact absurd rfl ne
    | cons c cs =>
      obtain ⟨run, whole⟩ := run_append rest fun d hd => digits d (List.mem_cons_of_mem c hd)
      refine ⟨.integer, c :: (cs ++ rest.takeWhile Char.isDigit), rest.dropWhile Char.isDigit, ?_,
        by simp, fun _ _ => rfl⟩
      rw [List.cons_append, whole]
      exact .integer (digits c List.mem_cons_self) run (stops_dropWhile Char.isDigit rest)
  | mark punctuation =>
    obtain rfl : part = punctuation.text.toList := h
    exact ⟨.mark punctuation, _, rest, .mark, le_refl _, fun _ _ => rfl⟩
  | eof => exact absurd h id

/-- Where blanks or a comment could be read, no token is cut off. -/
theorem exists_cut_of_gap {terminal : Terminal} {part : List Char}
    (ht : ∀ kind, terminal ≠ .token kind) (h : terminal.Matches part) (rest : List Char) :
    ∃ text back, Cuts (part ++ rest) ⟨none, text, back⟩ := by
  cases terminal with
  | token kind => exact absurd rfl (ht kind)
  | blanks =>
    obtain ⟨ne, blanks⟩ := h
    cases part with
    | nil => exact absurd rfl ne
    | cons c cs => exact ⟨_, _, .blank (blanks c List.mem_cons_self)⟩
  | comment =>
    obtain ⟨cs, rfl, hcs⟩ := h
    obtain ⟨run, whole⟩ := @run_append (· != '\n') cs rest fun c hc => bne_iff_ne.2 (hcs c hc)
    refine ⟨'/' :: '/' :: (cs ++ rest.takeWhile (· != '\n')), rest.dropWhile (· != '\n'), ?_⟩
    rw [List.cons_append, List.cons_append, whole]
    exact .comment (fun c hc => bne_iff_ne.1 (run c hc)) (stops_dropWhile (· != '\n') rest)

theorem Cuts.unique {cs : List Char} {piece other : Piece} (h : Cuts cs piece)
    (ho : Cuts cs other) : piece = other :=
  Option.some.inj ((first_of_cuts h).symm.trans (first_of_cuts ho))

theorem Cuts.append {cs : List Char} {piece : Piece} (h : Cuts cs piece) :
    piece.text ++ piece.rest = cs :=
  Piece.first_append (first_of_cuts h)

/-- A text that is no word is not reserved. -/
theorem reservedRule_of_head {kind : Kind} {c : Char} {cs : List Char}
    (hk : ¬ (kind.isKeyword ∨ kind.isMethod)) (hc : isWordStart c = false) :
    ReservedRule kind (c :: cs) := by
  have heads : ∀ word ∈ reservedWords, word.toList.head?.any isWordStart := by decide
  refine iff_of_false hk ?_
  intro reserved
  have head := heads _ reserved
  simp [hc] at head

/-- The kind that a cut gives fits its text. -/
theorem Cuts.kind_spec {cs text rest : List Char} {kind : Kind}
    (h : Cuts cs ⟨some kind, text, rest⟩) : KindMatches kind text ∧ ReservedRule kind text := by
  cases h with
  | word hc hcs _ => exact ofWord_spec ⟨_, _, rfl, hc, hcs⟩
  | @integer c cs _ hc hcs _ =>
    refine ⟨⟨List.cons_ne_nil c cs, ?_⟩, ?_⟩
    · intro d hd
      rcases List.mem_cons.1 hd with rfl | hd
      · exact hc
      · exact hcs d hd
    · exact reservedRule_of_head (by decide) (not_isWordStart_of_isDigit hc)
  | @string cs _ hcs => exact ⟨⟨cs, rfl, hcs⟩, reservedRule_of_head (by decide) (by decide)⟩
  | @mark punctuation _ =>
    refine ⟨rfl, ?_⟩
    cases punctuation <;> exact reservedRule_of_head (by decide) (by decide)

/-- The tokens at the front of a text are its longest matches. -/
theorem cuts_iff_longest {kind : Kind} {text rest : List Char} :
    Cuts (text ++ rest) ⟨some kind, text, rest⟩ ↔ Longest kind text rest := by
  constructor
  · intro h
    obtain ⟨matched, reserved⟩ := h.kind_spec
    refine ⟨matched, ?_, reserved⟩
    rintro terminal part ⟨back, whole⟩ hm
    -- another match gives another cut of the same text, and there is one only
    rw [← whole] at h
    by_cases ht : ∃ kind, terminal = .token kind
    · obtain ⟨kind', rfl⟩ := ht
      obtain ⟨found, text', back', cut, length, -⟩ := exists_cut_of_matches hm back
      cases h.unique cut
      exact length
    · obtain ⟨text', back', cut⟩ := exists_cut_of_gap (fun k hk => ht ⟨k, hk⟩) hm back
      cases h.unique cut
  · intro h
    -- what is cut off is a match too, so it is as long as the longest one and hence the same
    obtain ⟨found, text', back, cut, length, same⟩ := exists_cut_of_matches h.matched rest
    have whole : text' ++ back = text ++ rest := cut.append
    have shorter := h.longest (.token found) text' ⟨back, whole⟩ cut.kind_spec.1
    obtain ⟨rfl, rfl⟩ := List.append_inj whole (by omega)
    obtain rfl := same rfl h.reserved
    exact cut

/-! ## Tokens set apart -/

/-- What follows a token does not add to it: marks and strings end by themselves, the others before
the first character that no word goes on with. -/
def Apart (kind : Kind) (rest : List Char) : Prop :=
  match kind with
  | .mark _ | .string => True
  | _ => Stops isWordPart rest

theorem Stops.apart {rest : List Char} (h : Stops isWordPart rest) (kind : Kind) :
    Apart kind rest := by
  cases kind with
  | mark | string => trivial
  | _ => exact h

theorem Stops.isDigit {rest : List Char} (h : Stops isWordPart rest) :
    Stops Char.isDigit rest := by
  intro c cs split
  have other := h c cs split
  rw [isWordPart, Char.isAlphanum] at other
  simp only [Bool.or_eq_false_iff] at other
  exact other.1.2

theorem cuts_word {kind : Kind} {text rest : List Char} (hk : WordKind kind)
    (h : KindMatches kind text) (hr : ReservedRule kind text) (stops : Stops isWordPart rest) :
    Cuts (text ++ rest) ⟨some kind, text, rest⟩ := by
  have same := hk.ofWord_eq h hr
  obtain ⟨c, cs, rfl, hc, hcs⟩ := hk.identifier_of_matches h
  have cut := Cuts.word hc hcs stops
  rwa [same] at cut

/-- A token that is set apart from what follows is a longest match. -/
theorem longest_of_apart {kind : Kind} {text rest : List Char} (h : KindMatches kind text)
    (hr : ReservedRule kind text) (apart : Apart kind rest) : Longest kind text rest := by
  rw [← cuts_iff_longest]
  cases kind with
  | keyword word => exact cuts_word (.keyword word) h hr apart
  | method verb => exact cuts_word (.method verb) h hr apart
  | identifier => exact cuts_word .identifier h hr apart
  | string =>
    obtain ⟨cs, rfl, hcs⟩ := h
    have cut := @Cuts.string cs rest hcs
    simpa using cut
  | integer =>
    obtain ⟨ne, digits⟩ := h
    cases text with
    | nil => exact absurd rfl ne
    | cons c cs =>
      rw [List.forall_mem_cons] at digits
      exact .integer digits.1 digits.2 (Stops.isDigit apart)
  | mark punctuation =>
    obtain rfl : text = punctuation.text.toList := h
    exact .mark
  | eof => exact absurd h id

end HttpSuite.Lexing
