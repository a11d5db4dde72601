import HttpSuite.Proofs.LineByLine

/-!
# Line ends

Whether the lines of a text end in a line feed or in a carriage return and a line feed makes no
difference (`crlf_indistinguishable`). At the end of a line a carriage return is a blank, a part of a
comment or what is not shown of an open string (`scan_append_return`), and behind the line feed the
columns start anew. The carriage returns need not be the first ones of the text.
-/

namespace HttpSuite

open Lexing

/-- A character, a line feed with a carriage return in front of it. -/
def withReturn (c : Char) : List Char :=
  if c = '\n' then ['\r', '\n'] else [c]

/-- A text with a carriage return in front of every line feed. -/
def crlf (source : String) : String :=
  String.ofList (source.toList.flatMap withReturn)

/-! ## A carriage return at the end of a line -/

/-- No token ends in a blank. -/
theorem not_isLayout_of_matches {kind : Kind} {front : List Char} {c : Char}
    (h : KindMatches kind (front ++ [c])) : isLayout c = false := by
  have word : KindMatches .identifier (front ++ [c]) → isLayout c = false := by
    rintro ⟨d, cs, whole, hd, hcs⟩
    have member : c ∈ d :: cs := by
      rw [← whole]
      simp
    rcases List.mem_cons.1 member with rfl | hm
    · exact not_isLayout_of_isWordStart hd
    · rw [Bool.eq_false_iff]
      intro layout
      rcases isLayout_iff.1 layout with rfl | rfl | rfl | rfl | rfl <;>
        exact absurd (hcs _ hm) (by decide)
  cases kind with
  | keyword keyword => exact word (WordKind.identifier_of_matches (.keyword keyword) h)
  | method verb => exact word (WordKind.identifier_of_matches (.method verb) h)
  | identifier => exact word h
  | string =>
    obtain ⟨cs, whole, -⟩ := h
    obtain ⟨-, last⟩ := List.append_inj' whole rfl
    rw [List.singleton_inj.1 last]
    rfl
  | integer => exact not_isLayout_of_isDigit (h.2 c (by simp))
  | mark punctuation =>
    have lasts : punctuation.text.toList.getLast?.all (!isLayout ·) := by
      cases punctuation <;> decide
    have whole : front ++ [c] = punctuation.text.toList := h
    rw [← whole, List.getLast?_concat] at lasts
    simpa using lasts
  | eof => exact absurd h id

/-- What is skipped is a blank or a comment. -/
theorem skipped_cases {cs text rest : List Char} (h : Cuts cs ⟨none, text, rest⟩) :
    (∃ c, text = [c] ∧ isLayout c) ∨
      ∃ body, text = '/' :: '/' :: body ∧ (∀ c ∈ body, c ≠ '\n') ∧ Stops (· != '\n') rest := by
  cases h with
  | blank hc => exact .inl ⟨_, rfl, hc⟩
  | comment hcs stops => exact .inr ⟨_, rfl, hcs, stops⟩

/-- Only a comment starts with a slash. -/
theorem comment_of_slash {cs text rest : List Char} {kind : Option Kind}
    (h : Cuts cs ⟨kind, text, rest⟩) (slash : text.head? = some '/') :
    kind = none ∧ ∃ body, text = '/' :: '/' :: body ∧ (∀ c ∈ body, c ≠ '\n') ∧
      Stops (· != '\n') rest := by
  cases h with
  | blank hc => exact absurd (Option.some.inj slash ▸ hc) (by decide)
  | comment hcs stops => exact ⟨rfl, _, rfl, hcs, stops⟩
  | word hc => exact absurd (Option.some.inj slash ▸ hc) (by decide)
  | integer hc => exact absurd (Option.some.inj slash ▸ hc) (by decide)
  | string => simp at slash
  | @mark punctuation => cases punctuation <;> exact absurd slash (by decide)

/-- A carriage return behind a text that is stuck does not set it free. -/
theorem first_append_return {line : List Char} (ne : line ≠ []) (stuck : Piece.first line = none) :
    Piece.first (line ++ ['\r']) = none := by
  rw [Option.eq_none_iff_forall_ne_some]
  rintro ⟨kind, text, behind⟩ found
  have cut := cuts_of_first found
  obtain ⟨more, rfl, rfl⟩ | ⟨c, more, rfl, split⟩ := within_or_beyond cut.append
  · rw [cut.first_eq_some_of_within] at stuck
    cases stuck
  · -- only a comment takes the carriage return, and it could have been cut off without it
    obtain ⟨rfl, rest⟩ := List.cons.inj split
    obtain ⟨rfl, rfl⟩ := List.append_eq_nil_iff.1 rest.symm
    cases kind with
    | some kind => exact absurd (not_isLayout_of_matches cut.kind_spec.1) (by decide)
    | none =>
      obtain ⟨c, single, -⟩ | ⟨body, whole, hb, -⟩ := skipped_cases cut
      · exact ne (List.append_eq_singleton_iff.1 single |>.resolve_right (by simp)).1
      · obtain rfl | ⟨body, d, rfl⟩ := List.eq_nil_or_concat' body
        · have last := congrArg List.getLast? whole
          simp at last
        · obtain ⟨rfl, -⟩ : line = '/' :: '/' :: body ∧ ['\r'] = [d] :=
            List.append_inj' whole rfl
          have shorter := @Cuts.comment body [] (List.forall_mem_append.1 hb).1 (by rintro _ _ ⟨⟩)
          rw [List.append_nil] at shorter
          rw [first_of_cuts shorter] at stuck
          cases stuck

/-- The fault of a line does not show carriage returns at its end. -/
theorem fault_append_return {line : List Char} (h : '\n' ∉ line) (position : Position) :
    LexFault.ofText position (line ++ ['\r']) = LexFault.ofText position line := by
  have run : ∀ c ∈ line ++ ['\r'], (c != '\n') = true := by
    intro c hc
    rw [bne_iff_ne]
    rintro rfl
    simp [h] at hc
  have within : ∀ c ∈ line, (c != '\n') = true := (List.forall_mem_append.1 run).1
  have trimmed : Text.trimRight (· == '\r') (line ++ ['\r']) = Text.trimRight (· == '\r') line := by
    simp [Text.trimRight]
  rw [LexFault.ofText, LexFault.ofText, List.takeWhile_eq_self_iff.2 run,
    List.takeWhile_eq_self_iff.2 within, trimmed]

theorem stops_nil (inClass : Char → Bool) : Stops inClass [] := by
  rintro _ _ ⟨⟩

/-- A comment that nothing follows is all there is. -/
theorem scan_comment {body : List Char} (h : ∀ c ∈ body, c ≠ '\n') (position : Position) :
    Stream.scan position ('/' :: '/' :: body) =
      ⟨[], .eof (position.after ('/' :: '/' :: body))⟩ := by
  have cut := Cuts.comment h (stops_nil (· != '\n'))
  rw [List.append_nil] at cut
  rw [scan_cut position cut, scan_stuck rfl]
  rfl

/-- A carriage return at the end of a line adds no token and changes no fault. -/
theorem scan_append_return {line : List Char} (h : '\n' ∉ line) (position : Position) :
    Stream.scan position (line ++ ['\r']) =
      (Stream.scan position line).andThen ⟨[], .eof ((position.after line).next '\r')⟩ := by
  fun_induction Stream.scan position line with
  | case1 position line empty =>
    obtain rfl := List.isEmpty_iff.1 empty
    rw [List.nil_append, scan_cut position (Cuts.blank rfl), scan_stuck rfl]
    rfl
  | case2 position line nonempty stuck =>
    have ne : line ≠ [] := by simpa using nonempty
    rw [scan_stuck (first_append_return ne stuck), fault_append_return h]
    cases line with
    | nil => exact absurd rfl ne
    | cons c cs => rfl
  | case3 position line nonempty piece first ih =>
    obtain ⟨kind, text, rest⟩ := piece
    have cut := cuts_of_first first
    obtain rfl : text ++ rest = line := cut.append
    rw [List.mem_append, not_or] at h
    by_cases slash : text.head? = some '/'
    · -- a comment goes on to the end of the line, and takes the carriage return
      obtain ⟨rfl, body, rfl, hb, stops⟩ := comment_of_slash cut slash
      obtain rfl : rest = [] := by
        cases rest with
        | nil => rfl
        | cons c cs =>
          have feed : c = '\n' := by simpa using stops c cs rfl
          exact absurd (feed ▸ List.mem_cons_self) h.2
      have longer : ∀ c ∈ body ++ ['\r'], c ≠ '\n' := List.forall_mem_append.2 ⟨hb, by simp⟩
      rw [← scan_cut position cut, List.append_nil, scan_comment hb, List.cons_append,
        List.cons_append, scan_comment longer, Position.after, List.foldl_cons, List.foldl_cons,
        List.foldl_append]
      rfl
    · -- no other piece does
      have longer : Cuts (text ++ (rest ++ ['\r'])) ⟨kind, text, rest ++ ['\r']⟩ := by
        refine cut.change_rest (fun comment => absurd comment slash) ?_ ?_
        · exact fun stops => stops.append (by rintro _ _ ⟨⟩; rfl)
        · exact fun stops => stops.append (by rintro _ _ ⟨⟩; rfl)
      rw [List.append_assoc, scan_cut position longer, push_andThen]
      show (Stream.scan (position.after text) (rest ++ ['\r'])).push _ = _
      rw [ih h.2, Position.after, Position.after, Position.after, List.foldl_append]

/-! ## Whole texts -/

theorem flatMap_withReturn {line : List Char} (h : '\n' ∉ line) :
    line.flatMap withReturn = line := by
  induction line with
  | nil => rfl
  | cons c cs ih =>
    rw [List.mem_cons, not_or] at h
    rw [List.flatMap_cons, ih h.2, withReturn, if_neg (Ne.symm h.1), List.singleton_append]

theorem andThen_eof_andThen (front back : Stream) (position : Position) :
    (front.andThen ⟨[], .eof position⟩).andThen back = front.andThen back := by
  obtain ⟨tokens, ending⟩ := front
  cases ending with
  | eof => simp [Stream.andThen]
  | fault => rfl

/-- Lexing does not see the carriage returns. -/
theorem scan_withReturn (cs : List Char) (position : Position) :
    Stream.scan position (cs.flatMap withReturn) = Stream.scan position cs := by
  induction cs using lines_induction generalizing position with
  | last line hl => rw [flatMap_withReturn hl]
  | more line rest hl ih =>
    have hr : '\n' ∉ line ++ ['\r'] := by simp [hl]
    have split : (line ++ '\n' :: rest).flatMap withReturn =
        (line ++ ['\r']) ++ '\n' :: rest.flatMap withReturn := by
      rw [List.flatMap_append, flatMap_withReturn hl, List.flatMap_cons, List.append_assoc]
      rfl
    -- behind the line feed both texts go on in the first column
    rw [split, scan_append_newline hr, scan_append_newline hl, next_line hr, next_line hl, ih,
      scan_append_return hl, andThen_eof_andThen]

theorem ofText_crlf (source : String) : Stream.ofText (crlf source) = Stream.ofText source := by
  rw [Stream.ofText, crlf, String.toList_ofList, scan_withReturn]
  rfl

/-- Compilation looks at the tree of a text only. -/
theorem compile_congr {source other : String} (h : parse source = parse other)
    (requested : Option Target) (settings : Settings) (sourceName outputName : Option RawText) :
    compile requested settings sourceName outputName source =
      compile requested settings sourceName outputName other := by
  rw [compile, compile, analyze, analyze, h]

/-- **Line ends do not matter.** A text and the same text with a carriage return in front of every line
feed have the same tokens at the same places, up to the same end or the same fault. Hence they have the
same tree, the same errors and the same generated files. -/
theorem crlf_indistinguishable (source : String) :
    Cursor.ofText (crlf source) = Cursor.ofText source ∧
    tokenize (crlf source) = tokenize source ∧
    parse (crlf source) = parse source ∧
    analyze (crlf source) = analyze source ∧
    ∀ requested settings sourceName outputName,
      compile requested settings sourceName outputName (crlf source) =
        compile requested settings sourceName outputName source := by
  have cursor : Cursor.ofText (crlf source) = Cursor.ofText source := by
    rw [Cursor.ofText, ofText_crlf]
    rfl
  have parsed : parse (crlf source) = parse source := by
    rw [parse, ofText_crlf]
    rfl
  refine ⟨cursor, ?_, parsed, ?_, compile_congr parsed⟩
  · rw [tokenize, cursor]
    rfl
  · rw [analyze, parsed]
    rfl

example : crlf "a //\n\"b\n" = "a //\r\n\"b\r\n" := by
  decide

end HttpSuite
