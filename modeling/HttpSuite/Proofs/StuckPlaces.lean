import HttpSuite.Proofs.LineByLine

/-!
# Where lexing stops

Lexing fails at the first place where no terminal matches, and the fault describes that place. Three
steps lead there:

* **The place.** Nothing is cut off a text exactly if no terminal matches a part of its front
  (`first_eq_none_iff_unmatched`), and the first characters tell whether this is so (`unmatched_iff`).
* **The line.** The line and the column of a place lead back to it: what stands there can be looked up
  in the lines of the text (`foundAt_placeAfter`).
* **The report.** An open string is reported with the rest of its line, anything else with one
  character (`describes_ofText`).
-/

namespace HttpSuite.Lexing

/-! ## Where nothing fits -/

/-- No terminal matches a part of the front of a text. -/
def Unmatched (rest : List Char) : Prop :=
  ∀ (terminal : Terminal) (part : List Char), part <+: rest → ¬ terminal.Matches part

theorem Cuts.exists_terminal {cs : List Char} {piece : Piece} (h : Cuts cs piece) :
    ∃ terminal : Terminal, terminal.Matches piece.text := by
  obtain ⟨kind, text, rest⟩ := piece
  cases kind with
  | some kind => exact ⟨.token kind, h.kind_spec.1⟩
  | none =>
    cases h with
    | @blank c _ hc => exact ⟨.blanks, List.cons_ne_nil c [], List.forall_mem_singleton.2 hc⟩
    | @comment cs _ hcs _ => exact ⟨.comment, cs, rfl, hcs⟩

theorem exists_cut_of_terminal {terminal : Terminal} {part : List Char} (h : terminal.Matches part)
    (rest : List Char) : ∃ piece, Cuts (part ++ rest) piece := by
  by_cases ht : ∃ kind, terminal = .token kind
  · obtain ⟨kind, rfl⟩ := ht
    obtain ⟨found, text, back, cut, -⟩ := exists_cut_of_matches h rest
    exact ⟨_, cut⟩
  · obtain ⟨text, back, cut⟩ := exists_cut_of_gap (fun kind hk => ht ⟨kind, hk⟩) h rest
    exact ⟨_, cut⟩

/-- Nothing is cut off exactly where no terminal matches. -/
theorem first_eq_none_iff_unmatched {rest : List Char} :
    Piece.first rest = none ↔ Unmatched rest := by
  constructor
  · rintro none terminal part ⟨back, rfl⟩ matched
    obtain ⟨piece, cut⟩ := exists_cut_of_terminal matched back
    rw [first_of_cuts cut] at none
    cases none
  · intro unmatched
    cases first : Piece.first rest with
    | none => rfl
    | some piece =>
      obtain ⟨terminal, matched⟩ := (cuts_of_first first).exists_terminal
      exact absurd matched (unmatched terminal piece.text ⟨piece.rest, Piece.first_append first⟩)

/-- A character with which a token or a blank can start, whatever follows it. -/
def Starts (c : Char) : Prop :=
  c ∈ [' ', '\t', '\x0c', '\r', '\n', '_', '{', '}', ';', '='] ∨
    ('A' ≤ c ∧ c ≤ 'Z') ∨ ('a' ≤ c ∧ c ≤ 'z') ∨ ('0' ≤ c ∧ c ≤ '9')

/-- First characters of a text at which nothing can be read: one that starts nothing, and no two dots,
two slashes or string that is closed on its line. -/
structure NothingStarts (c : Char) (cs : List Char) : Prop where
  alone : ¬ Starts c
  dots : ¬ (c = '.' ∧ cs.head? = some '.')
  slashes : ¬ (c = '/' ∧ cs.head? = some '/')
  quotes : ¬ (c = '"' ∧ '"' ∈ cs.takeWhile (· != '\n'))

theorem isWordStart_iff {c : Char} :
    isWordStart c ↔ c = '_' ∨ ('A' ≤ c ∧ c ≤ 'Z') ∨ ('a' ≤ c ∧ c ≤ 'z') := by
  have unfolded : isWordStart c = ((decide ('A' ≤ c ∧ c ≤ 'Z') ||
    (decide ('a' ≤ c) && decide (c ≤ 'z'))) || c == '_') := rfl
  simp only [unfolded, Bool.or_eq_true, Bool.and_eq_true, decide_eq_true_eq, beq_iff_eq]
  tauto

theorem isDigit_iff {c : Char} : c.isDigit ↔ '0' ≤ c ∧ c ≤ '9' := by
  have unfolded : c.isDigit = (decide ('0' ≤ c) && decide (c ≤ '9')) := rfl
  simp only [unfolded, Bool.and_eq_true, decide_eq_true_eq]

/-- Such a character alone is matched by a terminal. -/
theorem Starts.exists_terminal {c : Char} (h : Starts c) :
    ∃ terminal : Terminal, terminal.Matches [c] := by
  have word : isWordStart c → ∃ terminal : Terminal, terminal.Matches [c] :=
    fun hc => ⟨.token .identifier, c, [], rfl, hc, List.forall_mem_nil _⟩
  have blank : isLayout c → ∃ terminal : Terminal, terminal.Matches [c] :=
    fun hc => ⟨.blanks, List.cons_ne_nil c [], List.forall_mem_singleton.2 hc⟩
  rcases h with h | upper | lower | digit
  · simp only [List.mem_cons, List.not_mem_nil, or_false] at h
    rcases h with rfl | rfl | rfl | rfl | rfl | rfl | rfl | rfl | rfl | rfl
    · exact blank rfl
    · exact blank rfl
    · exact blank rfl
    · exact blank rfl
    · exact blank rfl
    · exact word rfl
    · exact ⟨.token (.mark .openBrace), rfl⟩
    · exact ⟨.token (.mark .closeBrace), rfl⟩
    · exact ⟨.token (.mark .semicolon), rfl⟩
    · exact ⟨.token (.mark .equals), rfl⟩
  · exact word (isWordStart_iff.2 (.inr (.inl upper)))
  · exact word (isWordStart_iff.2 (.inr (.inr lower)))
  · exact ⟨.token .integer, List.cons_ne_nil c [], List.forall_mem_singleton.2 (isDigit_iff.2 digit)⟩

theorem ne_newline_of_mem_line {c : Char} {cs : List Char} (h : c ∈ cs.takeWhile (· != '\n')) :
    c ≠ '\n' :=
  bne_iff_ne.1 (@List.mem_takeWhile_imp _ (· != '\n') cs c h)

/-- A quote that is closed on its line starts a string. -/
theorem exists_string_of_closed {cs : List Char} (h : '"' ∈ cs.takeWhile (· != '\n')) :
    ∃ part, part <+: '"' :: cs ∧ KindMatches .string part := by
  obtain ⟨inside, behind, line, first⟩ := List.eq_append_cons_of_mem h
  refine ⟨'"' :: inside ++ ['"'], ?_, inside, rfl, ?_⟩
  · rw [List.cons_append, List.prefix_cons_inj]
    refine List.IsPrefix.trans ?_ (List.takeWhile_prefix (· != '\n'))
    rw [line]
    exact ⟨behind, by simp⟩
  · intro c hc
    have within : c ∈ cs.takeWhile (· != '\n') := by
      rw [line]
      exact List.mem_append_left _ hc
    exact ⟨fun quote => first (quote ▸ hc), ne_newline_of_mem_line within⟩

theorem Unmatched.nothingStarts {c : Char} {cs : List Char} (h : Unmatched (c :: cs)) :
    NothingStarts c cs := by
  refine ⟨?_, ?_, ?_, ?_⟩
  · intro starts
    obtain ⟨terminal, matched⟩ := starts.exists_terminal
    exact h terminal [c] ⟨cs, rfl⟩ matched
  · rintro ⟨rfl, second⟩
    obtain ⟨rest, rfl⟩ := List.head?_eq_some_iff.1 second
    exact h (.token (.mark .range)) ['.', '.'] ⟨rest, rfl⟩ rfl
  · rintro ⟨rfl, second⟩
    obtain ⟨rest, rfl⟩ := List.head?_eq_some_iff.1 second
    exact h .comment ['/', '/'] ⟨rest, rfl⟩ ⟨[], rfl, List.forall_mem_nil _⟩
  · rintro ⟨rfl, closed⟩
    obtain ⟨part, front, matched⟩ := exists_string_of_closed closed
    exact h (.token .string) part front matched

theorem NothingStarts.first_eq_none {c : Char} {cs : List Char} (h : NothingStarts c cs) :
    Piece.first (c :: cs) = none := by
  cases first : Piece.first (c :: cs) with
  | none => rfl
  | some piece =>
    -- Every piece that could be cut off starts in a way that is ruled out.
    have cut := cuts_of_first first
    generalize whole : c :: cs = text at cut
    cases cut with
    | blank hc =>
      obtain ⟨rfl, -⟩ := List.cons.inj whole
      refine absurd (Or.inl ?_) h.alone
      rcases isLayout_iff.1 hc with rfl | rfl | rfl | rfl | rfl <;> decide
    | comment =>
      obtain ⟨rfl, rfl⟩ := List.cons.inj whole
      exact absurd ⟨rfl, rfl⟩ h.slashes
    | word hc =>
      obtain ⟨rfl, -⟩ := List.cons.inj whole
      refine absurd ?_ h.alone
      rcases isWordStart_iff.1 hc with rfl | upper | lower
      · exact .inl (by decide)
      · exact .inr (.inl upper)
      · exact .inr (.inr (.inl lower))
    | integer hc =>
      obtain ⟨rfl, -⟩ := List.cons.inj whole
      exact absurd (.inr (.inr (.inr (isDigit_iff.1 hc)))) h.alone
    | @string inside rest hc =>
      rw [List.cons_append] at whole
      obtain ⟨rfl, rfl⟩ := List.cons.inj whole
      refine absurd ⟨rfl, ?_⟩ h.quotes
      rw [List.takeWhile_append_of_pos fun c hm => bne_iff_ne.2 (hc c hm).2]
      exact List.mem_append_right inside List.mem_cons_self
    | @mark punctuation rest =>
      cases punctuation with
      | range =>
        obtain ⟨rfl, rfl⟩ := List.cons.inj whole
        exact absurd ⟨rfl, rfl⟩ h.dots
      | openBrace | closeBrace | semicolon | equals =>
        obtain ⟨rfl, -⟩ := List.cons.inj whole
        exact absurd (.inl (by decide)) h.alone

/-- The first characters tell whether nothing can be read. -/
theorem unmatched_iff {c : Char} {cs : List Char} : Unmatched (c :: cs) ↔ NothingStarts c cs :=
  ⟨Unmatched.nothingStarts, fun h => first_eq_none_iff_unmatched.1 h.first_eq_none⟩

/-! ## Looking a place up -/

/-- What a text holds of the line that it ends on. -/
def lastLine (before : List Char) : List Char :=
  (before.reverse.takeWhile (· != '\n')).reverse

theorem bne_newline_of_not_mem {line : List Char} (h : '\n' ∉ line) :
    ∀ c ∈ line, (c != '\n') = true := by
  intro c hc
  rw [bne_iff_ne]
  rintro rfl
  exact h hc

theorem lastLine_of_no_newline {line : List Char} (h : '\n' ∉ line) : lastLine line = line := by
  have reversed : '\n' ∉ line.reverse := List.mem_reverse.not.2 h
  rw [lastLine, List.takeWhile_eq_self_iff.2 (bne_newline_of_not_mem reversed), List.reverse_reverse]

theorem lastLine_append_newline (front back : List Char) :
    lastLine (front ++ '\n' :: back) = lastLine back := by
  rw [lastLine, List.reverse_append, List.reverse_cons, List.append_assoc, List.takeWhile_append]
  split
  · rename_i all
    rw [lastLine, List.IsPrefix.eq_of_length (List.takeWhile_prefix _) all]
    simp
  · rfl

theorem getElem?_splitOn_zero (cs : List Char) :
    (cs.splitOn '\n')[0]? = some (cs.takeWhile (· != '\n')) := by
  induction cs using lines_induction with
  | last line h =>
    rw [List.splitOn_eq_singleton h, List.takeWhile_eq_self_iff.2 (bne_newline_of_not_mem h)]
    rfl
  | more line rest h _ =>
    rw [List.splitOn_append_cons_self_of_not_mem h,
      List.takeWhile_append_of_pos (bne_newline_of_not_mem h)]
    simp

/-- The line of a place among the lines of the whole text. -/
theorem getElem?_splitOn (before rest : List Char) :
    ((before ++ rest).splitOn '\n')[before.count '\n']? =
      some (lastLine before ++ rest.takeWhile (· != '\n')) := by
  -- By the lines in front of the place, each of which is one entry and holds one line feed.
  induction before using lines_induction with
  | last line h =>
    rw [List.count_eq_zero.2 h, getElem?_splitOn_zero, lastLine_of_no_newline h,
      List.takeWhile_append_of_pos (bne_newline_of_not_mem h)]
  | more line before h ih =>
    rw [List.append_assoc, List.cons_append, List.splitOn_append_cons_self_of_not_mem h,
      lastLine_append_newline, List.count_append, List.count_eq_zero.2 h, Nat.zero_add,
      List.count_cons_self, List.getElem?_cons_succ, ih]

/-- What the lines of a text hold at a place: the line has a number and the column is on the line, both
counted from one, and this is the rest of the line from there on. -/
def FoundAt (source : List Char) (place : Position) (found : List Char) : Prop :=
  ∃ (i j : Nat) (line : List Char), place = ⟨1 + i, 1 + j⟩ ∧ (source.splitOn '\n')[i]? = some line ∧
    j < line.length ∧ line.drop j = found

theorem line_cons {c : Char} (h : c ≠ '\n') (cs : List Char) :
    (c :: cs).takeWhile (· != '\n') = c :: cs.takeWhile (· != '\n') := by
  simp [h]

/-- A place leads back to the text that stands there. -/
theorem foundAt_placeAfter (before : List Char) {c : Char} {cs : List Char} (h : c ≠ '\n') :
    FoundAt (before ++ c :: cs) (placeAfter before) ((c :: cs).takeWhile (· != '\n')) := by
  refine ⟨before.count '\n', (lastLine before).length, _, ?_, getElem?_splitOn before (c :: cs), ?_,
    List.drop_left⟩
  · rw [placeAfter, lastLine, List.length_reverse]
  · rw [line_cons h, List.length_append, List.length_cons]
    omega

/-! ## The report -/

/-- The text of a line without the carriage returns at its end. -/
structure WithoutReturns (line text : List Char) : Prop where
  returns : ∃ returns, line = text ++ returns ∧ ∀ c ∈ returns, c = '\r'
  last : text.getLast? ≠ some '\r'

theorem withoutReturns_trimRight (line : List Char) :
    WithoutReturns line (Text.trimRight (· == '\r') line) := by
  refine ⟨⟨(line.reverse.takeWhile (· == '\r')).reverse, ?_, ?_⟩, ?_⟩
  · rw [Text.trimRight, ← List.reverse_append, List.takeWhile_append_dropWhile, List.reverse_reverse]
  · intro c hc
    exact beq_iff_eq.1 (@List.mem_takeWhile_imp _ (· == '\r') _ c (List.mem_reverse.1 hc))
  · rw [Text.trimRight, List.getLast?_reverse]
    intro head
    have stops := List.head?_dropWhile_not (· == '\r') line.reverse
    rw [head] at stops
    cases stops

/-- A line that starts with another character is not trimmed away. -/
theorem WithoutReturns.exists_cons {c : Char} {line text rest : List Char}
    (h : WithoutReturns line text) (start : line = c :: rest) (ne : c ≠ '\r') :
    ∃ more, text = c :: more ∧ more <+: rest := by
  obtain ⟨returns, whole, only⟩ := h.returns
  rw [start] at whole
  cases text with
  | nil =>
    rw [List.nil_append] at whole
    exact absurd (only c (whole ▸ List.mem_cons_self)) ne
  | cons d more =>
    obtain ⟨rfl, behind⟩ := List.cons.inj whole
    exact ⟨more, rfl, returns, behind.symm⟩

/-- A text is read up to a place where nothing can be read: in front of it stand whole tokens, each the
longest match, and what is skipped between them. -/
structure StuckAt (source : String) (before : List Char) (c : Char) (cs : List Char) : Prop where
  whole : source.toList = before ++ c :: cs
  scanned : ∃ lexemes gap, before = spelled lexemes ++ gap ∧ Lexes [] lexemes (gap ++ c :: cs) ∧
    Gap (c :: cs) gap
  unmatched : Unmatched (c :: cs)

/-- A fault describes a place and what stands there: an open string up to the end of its line, or one
character. -/
structure Describes (fault : LexFault) (source : String) (before : List Char) (c : Char)
    (cs : List Char) : Prop where
  position : fault.position = placeAfter before
  line : FoundAt source.toList fault.position ((c :: cs).takeWhile (· != '\n'))
  nonempty : fault.offending ≠ ""
  here : fault.offending.toList <+: c :: cs
  string : c = '"' → fault.reason.text = "unterminated string literal" ∧
    WithoutReturns ((c :: cs).takeWhile (· != '\n')) fault.offending.toList ∧
    '"' ∉ fault.offending.toList.tail
  other : c ≠ '"' → fault.reason.text = "unexpected character" ∧ fault.offending.toList = [c]

theorem NothingStarts.ne_lineEnd {c : Char} {cs : List Char} (h : NothingStarts c cs) :
    c ≠ '\n' ∧ c ≠ '\r' := by
  constructor <;> rintro rfl <;> exact absurd (.inl (by decide)) h.alone

theorem describes_ofText {source : String} {before : List Char} {c : Char} {cs : List Char}
    (whole : source.toList = before ++ c :: cs) (h : NothingStarts c cs) :
    Describes (.ofText (placeAfter before) (c :: cs)) source before c cs := by
  obtain ⟨newline, carriageReturn⟩ := h.ne_lineEnd
  have found : FoundAt source.toList (placeAfter before) ((c :: cs).takeWhile (· != '\n')) := by
    rw [whole]
    exact foundAt_placeAfter before newline
  -- The line starts with `c`, which is no carriage return, so something is left of it.
  have trimmed := withoutReturns_trimRight ((c :: cs).takeWhile (· != '\n'))
  obtain ⟨more, first, short⟩ := trimmed.exists_cons (line_cons newline cs) carriageReturn
  rw [first] at trimmed
  rw [LexFault.ofText, first, List.head?_cons]
  by_cases quote : c = '"'
  · rw [if_pos (congrArg some quote)]
    refine ⟨rfl, found, by simp, ?_, fun _ => ⟨rfl, ?_, ?_⟩, fun other => absurd quote other⟩
    · rw [String.toList_ofList, List.prefix_cons_inj]
      exact short.trans (List.takeWhile_prefix _)
    · rwa [String.toList_ofList]
    · rw [String.toList_ofList, List.tail_cons]
      exact fun closed => h.quotes ⟨quote, short.subset closed⟩
  · rw [if_neg (quote ∘ Option.some.inj)]
    exact ⟨rfl, found, by simp, ⟨cs, by simp⟩, fun same => absurd same quote,
      fun _ => ⟨rfl, String.toList_ofList⟩⟩

/-! ## Whole texts -/

theorem StuckAt.tokenize_eq {source : String} {before : List Char} {c : Char} {cs : List Char}
    (h : StuckAt source before c cs) :
    tokenize source = .error (.ofText (placeAfter before) (c :: cs)) := by
  obtain ⟨lexemes, gap, rfl, lexes, hg⟩ := h.scanned
  have cut : CutUp [] source.toList lexemes gap (c :: cs) :=
    ⟨by rw [h.whole, List.append_assoc], lexes, hg, first_eq_none_iff_unmatched.2 h.unmatched⟩
  rw [Lexing.tokenize_eq, cut.ofText]
  rfl

theorem exists_stuckAt {source : String} {fault : LexFault} (h : tokenize source = .error fault) :
    ∃ before c cs, StuckAt source before c cs := by
  obtain ⟨lexemes, gap, stuck, cut⟩ := exists_cutUp [] source.toList
  cases stuck with
  | nil =>
    rw [tokenize_of_cutUp cut] at h
    cases h
  | cons c cs =>
    refine ⟨spelled lexemes ++ gap, c, cs, ?_, ⟨lexemes, gap, rfl, cut.lexes, cut.gap⟩,
      first_eq_none_iff_unmatched.1 cut.stuck⟩
    rw [cut.whole, List.append_assoc]

/-- **Faults are exact.** Lexing fails exactly if a text can be read, by tokens and what is skipped
between them, up to a place where it goes on but no terminal matches. The first characters there tell:
the first one starts no token and no blank, and they are neither two dots nor two slashes nor a string
that is closed on its line. The fault then describes that very place. -/
theorem lexing_fails_where_nothing_starts (source : String) :
    ((∃ fault, tokenize source = .error fault) ↔ ∃ before c cs, StuckAt source before c cs) ∧
    (∀ c cs, Unmatched (c :: cs) ↔ NothingStarts c cs) ∧
    ∀ before c cs, StuckAt source before c cs →
      ∃ fault, tokenize source = .error fault ∧ Describes fault source before c cs := by
  refine ⟨⟨?_, ?_⟩, fun c cs => unmatched_iff, ?_⟩
  · rintro ⟨fault, failed⟩
    exact exists_stuckAt failed
  · rintro ⟨before, c, cs, stuck⟩
    exact ⟨_, stuck.tokenize_eq⟩
  · intro before c cs stuck
    exact ⟨_, stuck.tokenize_eq, describes_ofText stuck.whole (unmatched_iff.1 stuck.unmatched)⟩

/-- An open string behind a comment with a quote, with carriage returns at the end of its line. -/
theorem lexing_fails_at_open_string :
    let source := "in // \"\n=\"a \r\r\n\""
    let fault : LexFault := ⟨⟨2, 2⟩, "\"a ", .unterminatedString⟩
    tokenize source = .error fault ∧
      ∃ before c cs, StuckAt source before c cs ∧ Describes fault source before c cs := by
  intro source fault
  have stream : (Stream.ofText source).ending = .fault fault := by decide +kernel
  have failed : tokenize source = .error fault := by rw [tokenize_eq, stream]
  obtain ⟨fails, -, describes⟩ := lexing_fails_where_nothing_starts source
  obtain ⟨before, c, cs, stuck⟩ := fails.1 ⟨fault, failed⟩
  obtain ⟨found, same, described⟩ := describes before c cs stuck
  obtain rfl := Except.error.inj (failed.symm.trans same)
  exact ⟨failed, before, c, cs, stuck, described⟩

end HttpSuite.Lexing
