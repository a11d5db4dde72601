import HttpSuite.Proofs.OnDemand
import HttpSuite.Proofs.Relocation
import Mathlib.Data.List.Basic

/-!
# Line by line

No piece of a text goes beyond the end of a line, and only a line feed starts a line. So a text can be
lexed line by line (`lexing_line_by_line`):

* **pieces** — a line feed behind a line changes nothing about the pieces of the line
  (`first_append_newline`);
* **streams** — the stream of a text that starts with a line is that of the line, and then, if the
  line has no fault, that of the rest (`scan_append_newline`);
* **places** — the stream of a line in a text is that of the line by itself, put on its line
  (`scan_onLine`).
-/

namespace HttpSuite.Lexing

/-! ## Pieces within a line -/

theorem Stops.of_append {inClass : Char → Bool} {front back : List Char}
    (h : Stops inClass (front ++ back)) : Stops inClass front := by
  intro c cs split
  exact h c (cs ++ back) (by rw [split, List.cons_append])

theorem Stops.append {inClass : Char → Bool} {front back : List Char} (h : Stops inClass front)
    (hb : Stops inClass back) : Stops inClass (front ++ back) := by
  intro c cs split
  cases front with
  | nil => exact hb c cs split
  | cons d front =>
    obtain ⟨rfl, -⟩ := List.cons.inj split
    exact h d front rfl

theorem stops_newline {inClass : Char → Bool} (h : inClass '\n' = false) (rest : List Char) :
    Stops inClass ('\n' :: rest) := by
  rintro c cs ⟨⟩
  exact h

/-- A piece is cut off in front of another rest too, if the rest ends the same runs. -/
theorem Cuts.change_rest {kind : Option Kind} {text rest other : List Char}
    (h : Cuts (text ++ rest) ⟨kind, text, rest⟩)
    (comment : text.head? = some '/' → Stops (· != '\n') rest → Stops (· != '\n') other)
    (word : Stops isWordPart rest → Stops isWordPart other)
    (digits : Stops Char.isDigit rest → Stops Char.isDigit other) :
    Cuts (text ++ other) ⟨kind, text, other⟩ := by
  generalize text ++ rest = cs at h
  generalize hp : (⟨kind, text, rest⟩ : Piece) = piece at h
  cases h with
  | blank hc =>
    cases hp
    exact .blank hc
  | comment hcs stops =>
    cases hp
    exact .comment hcs (comment rfl stops)
  | word hc hcs stops =>
    cases hp
    exact .word hc hcs (word stops)
  | integer hc hcs stops =>
    cases hp
    exact .integer hc hcs (digits stops)
  | @string cs _ hcs =>
    cases hp
    have cut := @Cuts.string cs other hcs
    simpa using cut
  | mark =>
    cases hp
    exact .mark

/-- A piece that ends within the first part of a text is a piece of that part. -/
theorem Cuts.first_eq_some_of_within {kind : Option Kind} {text more tail : List Char}
    (h : Cuts (text ++ more ++ tail) ⟨kind, text, more ++ tail⟩) :
    Piece.first (text ++ more) = some ⟨kind, text, more⟩ := by
  rw [List.append_assoc] at h
  exact first_of_cuts
    (h.change_rest (fun _ => Stops.of_append) Stops.of_append Stops.of_append)

/-- The only piece with a line feed is the line feed. -/
theorem Cuts.starts_of_newline_mem {cs text rest : List Char} {kind : Option Kind}
    (h : Cuts cs ⟨kind, text, rest⟩) (hm : '\n' ∈ text) : cs = '\n' :: rest := by
  cases kind with
  | some kind => exact absurd hm (newline_not_mem_of_matches h.kind_spec.1)
  | none =>
    cases h with
    | blank hc => rw [List.mem_singleton.1 hm]
    | @comment cs _ hcs _ =>
      have inside : '\n' ∈ cs := by simpa using hm
      exact absurd rfl (hcs _ inside)

/-- The front of a text in two parts ends within the first part or takes something of the second. -/
theorem within_or_beyond {text behind line tail : List Char}
    (whole : text ++ behind = line ++ tail) :
    (∃ more, line = text ++ more ∧ behind = more ++ tail) ∨
      ∃ c more, text = line ++ c :: more ∧ tail = c :: (more ++ behind) := by
  obtain ⟨more, rfl, rfl⟩ | ⟨more, rfl, split⟩ := List.append_eq_append_iff.1 whole
  · exact .inl ⟨more, rfl, rfl⟩
  · cases more with
    | nil => exact .inl ⟨[], (List.append_nil _).symm.trans (List.append_nil _).symm, split.symm⟩
    | cons c more => exact .inr ⟨c, more, rfl, split⟩

/-- A line feed behind a line that is not empty does not change its first piece. -/
theorem first_append_newline {line : List Char} (h : '\n' ∉ line) (ne : line ≠ [])
    (rest : List Char) :
    Piece.first (line ++ '\n' :: rest) =
      (Piece.first line).map fun piece => { piece with rest := piece.rest ++ '\n' :: rest } := by
  cases first : Piece.first line with
  | some piece =>
    obtain ⟨kind, text, behind⟩ := piece
    have cut := cuts_of_first first
    obtain rfl : text ++ behind = line := cut.append
    have ends : ∀ inClass : Char → Bool, inClass '\n' = false → Stops inClass behind →
        Stops inClass (behind ++ '\n' :: rest) :=
      fun _ hn stops => stops.append (stops_newline hn rest)
    rw [List.append_assoc]
    exact first_of_cuts (cut.change_rest (fun _ => ends _ rfl) (ends _ rfl) (ends _ rfl))
  | none =>
    rw [Option.map_none, Option.eq_none_iff_forall_ne_some]
    rintro ⟨kind, text, behind⟩ found
    have cut := cuts_of_first found
    have within : '\n' ∉ text := by
      intro hm
      obtain ⟨c, cs, rfl⟩ := List.exists_cons_of_ne_nil ne
      obtain ⟨rfl, -⟩ := List.cons.inj (cut.starts_of_newline_mem hm)
      exact h List.mem_cons_self
    obtain ⟨more, rfl, rfl⟩ | ⟨c, more, rfl, split⟩ := within_or_beyond cut.append
    · -- a piece that lies within the line could have been cut off there
      rw [cut.first_eq_some_of_within] at first
      cases first
    · obtain ⟨rfl, -⟩ := List.cons.inj split
      simp at within

/-- The fault of a text lies within its first line. -/
theorem fault_append_newline {line : List Char} (h : '\n' ∉ line) (position : Position)
    (rest : List Char) :
    LexFault.ofText position (line ++ '\n' :: rest) = LexFault.ofText position line := by
  have run : ∀ c ∈ line, (c != '\n') = true := by
    intro c hc
    rw [bne_iff_ne]
    rintro rfl
    exact h hc
  rw [LexFault.ofText, LexFault.ofText, takeWhile_append_of_stops run (stops_newline rfl rest),
    List.takeWhile_eq_self_iff.2 run]

end HttpSuite.Lexing

namespace HttpSuite

open Lexing

/-! ## Streams one after the other -/

/-- A stream and what follows it. Behind a fault nothing follows. -/
def Stream.andThen (front back : Stream) : Stream :=
  match front.ending with
  | .eof _ => ⟨front.tokens ++ back.tokens, back.ending⟩
  | .fault _ => front

theorem push_andThen (token : Option Token) (front back : Stream) :
    (front.push token).andThen back = (front.andThen back).push token := by
  obtain ⟨tokens, ending⟩ := front
  cases ending with
  | eof position => simp [Stream.andThen, Stream.push]
  | fault fault => rfl

/-- The stream of a text that starts with a line: first that of the line, then that of the rest. -/
theorem scan_append_newline {line : List Char} (h : '\n' ∉ line) (position : Position)
    (rest : List Char) :
    Stream.scan position (line ++ '\n' :: rest) =
      (Stream.scan position line).andThen (Stream.scan ((position.after line).next '\n') rest) := by
  fun_induction Stream.scan position line with
  | case1 position line empty =>
    obtain rfl := List.isEmpty_iff.1 empty
    rw [List.nil_append, scan_cut position (Cuts.blank rfl)]
    rfl
  | case2 position line nonempty stuck =>
    have ne : line ≠ [] := by simpa using nonempty
    have first := first_append_newline h ne rest
    rw [stuck] at first
    rw [scan_stuck first, fault_append_newline h]
    cases line with
    | nil => exact absurd rfl ne
    | cons c cs => rfl
  | case3 position line nonempty piece first ih =>
    have ne : line ≠ [] := by simpa using nonempty
    have whole := Piece.first_append first
    have cut := first_append_newline h ne rest
    rw [first] at cut
    rw [scan_cut position (cuts_of_first cut), push_andThen]
    rw [← whole, List.mem_append, not_or] at h
    show (Stream.scan (position.after piece.text) (piece.rest ++ '\n' :: rest)).push _ = _
    rw [ih h.2, ← whole, Position.after, Position.after, Position.after, List.foldl_append]

/-! ## Lines of a text -/

/-- Every text is a line, or a line, a line feed and another text. -/
theorem lines_induction {motive : List Char → Prop}
    (last : ∀ line, '\n' ∉ line → motive line)
    (more : ∀ line rest, '\n' ∉ line → motive rest → motive (line ++ '\n' :: rest))
    (cs : List Char) : motive cs := by
  by_cases hm : '\n' ∈ cs
  · obtain ⟨line, rest, whole, hl⟩ := List.eq_append_cons_of_mem hm
    have shorter : rest.length < cs.length := by
      rw [whole, List.length_append, List.length_cons]
      omega
    rw [whole]
    exact more line rest hl (lines_induction last more rest)
  · exact last cs hm
termination_by cs.length

/-- The place behind a part of a line. -/
theorem after_of_no_newline {line : List Char} (h : '\n' ∉ line) (position : Position) :
    position.after line = ⟨position.line, position.column + line.length⟩ := by
  induction line generalizing position with
  | nil => simp [Position.after]
  | cons c cs ih =>
    rw [List.mem_cons, not_or] at h
    show (position.next c).after cs = _
    rw [ih h.2, Position.next, if_neg (Ne.symm h.1)]
    simp only [List.length_cons, Position.mk.injEq, true_and]
    omega

theorem next_line {line : List Char} (h : '\n' ∉ line) (position : Position) :
    (position.after line).next '\n' = ⟨position.line + 1, 1⟩ := by
  rw [after_of_no_newline h]
  rfl

/-- A place put on a line. -/
def Position.onLine (number : Int) (position : Position) : Position :=
  ⟨number, position.column⟩

/-- Within a line a text is lexed as by itself, apart from the number of the line. -/
theorem scan_onLine {line : List Char} (h : '\n' ∉ line) (number : Int) :
    Stream.scan ⟨number, 1⟩ line = (Stream.scan .start line).relocate (Position.onLine number) := by
  refine @scan_relocate (Position.onLine number) line ?_ .start
  intro c hc p
  have within : c ≠ '\n' := by
    rintro rfl
    exact h hc
  simp [Position.next, Position.onLine, within]

/-- A stream that ends with the text ends behind its last character. -/
theorem eof_of_scan {position last : Position} {cs : List Char}
    (h : (Stream.scan position cs).ending = .eof last) : last = position.after cs := by
  fun_induction Stream.scan position cs with
  | case1 position cs empty =>
    obtain rfl := List.isEmpty_iff.1 empty
    exact (Ending.eof.inj h).symm
  | case2 => cases h
  | case3 position cs nonempty piece first ih =>
    rw [ih h, ← Piece.first_append first, Position.after, Position.after, Position.after,
      List.foldl_append]

/-- The tokens of lines, each lexed by itself and put on its line, from a line on. -/
def linewise (number : Nat) (lines : List (List Char)) : List Token :=
  (lines.zipIdx number).flatMap fun entry =>
    (Stream.ofText (String.ofList entry.1)).tokens.map (Token.relocate (.onLine entry.2))

/-- A line that can be lexed by itself. -/
def Complete (line : List Char) : Prop :=
  ∃ position, (Stream.ofText (String.ofList line)).ending = .eof position

theorem linewise_cons (number : Nat) (line : List Char) (lines : List (List Char)) :
    linewise number (line :: lines) =
      (Stream.scan .start line).tokens.map (Token.relocate (.onLine number)) ++
        linewise (number + 1) lines := by
  rw [linewise, List.zipIdx_cons, List.flatMap_cons, Stream.ofText, String.toList_ofList]
  rfl

theorem Complete.scan_eq {line : List Char} (h : Complete line) (hl : '\n' ∉ line) (number : Nat) :
    Stream.scan ⟨number, 1⟩ line =
      ⟨(Stream.scan .start line).tokens.map (Token.relocate (.onLine number)),
        .eof ⟨number, line.length + 1⟩⟩ := by
  obtain ⟨position, ending⟩ := h
  rw [Stream.ofText, String.toList_ofList] at ending
  have place : position = ⟨1, line.length + 1⟩ := by
    rw [eof_of_scan ending, after_of_no_newline hl, Int.add_comm]
    rfl
  rw [scan_onLine hl, Stream.relocate, ending, place]
  rfl

/-- A line that can be lexed and the text behind it, from a line on. -/
theorem Complete.scan_append {line : List Char} (h : Complete line) (hl : '\n' ∉ line)
    (number : Nat) (rest : List Char) :
    Stream.scan ⟨number, 1⟩ (line ++ '\n' :: rest) =
      ⟨(Stream.scan .start line).tokens.map (Token.relocate (.onLine number)) ++
          (Stream.scan ⟨(number + 1 : Nat), 1⟩ rest).tokens,
        (Stream.scan ⟨(number + 1 : Nat), 1⟩ rest).ending⟩ := by
  rw [scan_append_newline hl, h.scan_eq hl, next_line hl]
  rfl

/-- A text whose lines can all be lexed. -/
theorem scan_of_complete (cs : List Char) (number : Nat)
    (complete : ∀ line ∈ cs.splitOn '\n', Complete line) :
    Stream.scan ⟨number, 1⟩ cs = ⟨linewise number (cs.splitOn '\n'),
      .eof ⟨number + (cs.splitOn '\n').length - 1, ((cs.splitOn '\n').getLastD []).length + 1⟩⟩ := by
  induction cs using lines_induction generalizing number with
  | last line hl =>
    rw [List.splitOn_eq_singleton hl] at complete ⊢
    rw [(complete line List.mem_cons_self).scan_eq hl, linewise_cons]
    simp [linewise]
  | more line rest hl ih =>
    rw [List.splitOn_append_cons_self_of_not_mem hl, List.forall_mem_cons] at complete
    obtain ⟨next, others, split⟩ := List.exists_cons_of_ne_nil (List.splitOn_ne_nil '\n' rest)
    rw [List.splitOn_append_cons_self_of_not_mem hl, complete.1.scan_append hl,
      ih (number + 1) complete.2, linewise_cons, split]
    simp only [List.length_cons, List.getLastD_cons, Stream.mk.injEq, Ending.eof.injEq,
      Position.mk.injEq, and_true, true_and]
    omega

theorem scan_of_faulty_line {line : List Char} {fault : LexFault}
    (failed : (Stream.scan .start line).ending = .fault fault) (hl : '\n' ∉ line) (number : Nat) :
    Stream.scan ⟨number, 1⟩ line =
      ⟨linewise number [line], .fault (fault.relocate (.onLine number))⟩ := by
  rw [scan_onLine hl, Stream.relocate, failed, linewise_cons]
  simp [linewise, Ending.relocate]

/-- A text with a line that cannot be lexed: the first such line ends the stream. -/
theorem scan_of_fault (cs : List Char) (number : Nat) {before after : List (List Char)}
    {line : List Char} {fault : LexFault} (split : cs.splitOn '\n' = before ++ line :: after)
    (complete : ∀ earlier ∈ before, Complete earlier)
    (failed : (Stream.scan .start line).ending = .fault fault) :
    Stream.scan ⟨number, 1⟩ cs = ⟨linewise number (before ++ [line]),
      .fault (fault.relocate (.onLine (number + before.length)))⟩ := by
  induction cs using lines_induction generalizing number before with
  | last first hl =>
    rw [List.splitOn_eq_singleton hl] at split
    obtain ⟨rfl, rfl, rfl⟩ : before = [] ∧ first = line ∧ after = [] := by
      cases before <;> simp_all
    simpa using scan_of_faulty_line failed hl number
  | more first rest hl ih =>
    rw [List.splitOn_append_cons_self_of_not_mem hl] at split
    cases before with
    | nil =>
      obtain ⟨rfl, -⟩ := List.cons.inj split
      -- nothing follows a fault
      rw [scan_append_newline hl, scan_of_faulty_line failed hl]
      simp [Stream.andThen]
    | cons earlier before =>
      obtain ⟨rfl, behind⟩ := List.cons.inj split
      rw [List.forall_mem_cons] at complete
      have number_eq : ((number + 1 : Nat) : Int) + before.length =
          number + (first :: before).length := by
        rw [List.length_cons]
        omega
      rw [complete.1.scan_append hl, ih (number + 1) behind complete.2, List.cons_append,
        linewise_cons, number_eq]

/-! ## Whole texts -/

theorem complete_iff {line : List Char} :
    Complete line ↔ ∃ tokens, tokenize (String.ofList line) = .ok tokens := by
  rw [Complete, tokenize_eq]
  cases (Stream.ofText (String.ofList line)).ending <;> simp

/-- **Lexing is local to lines.** The tokens of a text are those of its lines, each lexed by itself and
put on its line, and the end stands behind the last line. If some line cannot be lexed by itself, the
first such line ends the tokens of the text where it ends its own, with its fault put on its line. -/
theorem lexing_line_by_line (source : String) :
    ((∀ line ∈ source.toList.splitOn '\n', ∃ tokens, tokenize (String.ofList line) = .ok tokens) →
      tokenize source = .ok (linewise 1 (source.toList.splitOn '\n') ++
        [.endOfInput ⟨(source.toList.splitOn '\n').length,
          ((source.toList.splitOn '\n').getLastD []).length + 1⟩])) ∧
    (∀ before line after fault, source.toList.splitOn '\n' = before ++ line :: after →
      (∀ earlier ∈ before, ∃ tokens, tokenize (String.ofList earlier) = .ok tokens) →
      tokenize (String.ofList line) = .error fault →
      Emits (Cursor.ofText source) (linewise 1 (before ++ [line]))
          (fault.relocate (.onLine (1 + before.length))) ∧
        tokenize source = .error (fault.relocate (.onLine (1 + before.length)))) := by
  simp only [← complete_iff]
  constructor
  · intro complete
    have stream : Stream.ofText source = _ := scan_of_complete source.toList 1 complete
    rw [tokenize_eq, stream]
    simp
  · intro before line after fault split complete failed
    rw [tokenize_error_iff, Stream.ofText, String.toList_ofList] at failed
    have stream : Stream.ofText source = _ := scan_of_fault source.toList 1 split complete failed
    have ending := congrArg Stream.ending stream
    refine ⟨?_, tokenize_error_iff.2 ending⟩
    rw [Cursor.ofText, stream]
    exact emits_iff.2 ⟨rfl, rfl⟩

/-- A comment with a quote in it and a line without tokens; and a text whose second line is an open
string in front of a carriage return, with a third line that cannot be lexed either. -/
theorem lexing_lines_up_to_open_string :
    tokenize "GET // \"\n\r\n7.." = .ok [⟨.method .get, "GET", ⟨1, 1⟩⟩, ⟨.integer, "7", ⟨3, 1⟩⟩,
      ⟨.mark .range, "..", ⟨3, 2⟩⟩, ⟨.eof, "", ⟨3, 4⟩⟩] ∧
    Emits (Cursor.ofText "a\n7 \"x\r\n@") [⟨.identifier, "a", ⟨1, 1⟩⟩, ⟨.integer, "7", ⟨2, 1⟩⟩]
      ⟨⟨2, 3⟩, "\"x", .unterminatedString⟩ := by
  constructor
  · have split : "GET // \"\n\r\n7..".toList.splitOn '\n' =
        ["GET // \"".toList, "\r".toList, "7..".toList] := by
      decide
    have lexed := (lexing_line_by_line "GET // \"\n\r\n7..").1
    rw [split] at lexed
    refine (lexed ?_).trans (by decide +kernel)
    simp only [List.forall_mem_cons, List.not_mem_nil, String.ofList_toList]
    refine ⟨⟨[⟨.method .get, "GET", ⟨1, 1⟩⟩, ⟨.eof, "", ⟨1, 9⟩⟩], by decide +kernel⟩,
      ⟨[⟨.eof, "", ⟨1, 2⟩⟩], by decide +kernel⟩,
      ⟨[⟨.integer, "7", ⟨1, 1⟩⟩, ⟨.mark .range, "..", ⟨1, 2⟩⟩, ⟨.eof, "", ⟨1, 4⟩⟩],
        by decide +kernel⟩, by simp⟩
  · have tokens : linewise 1 (["a".toList] ++ ["7 \"x\r".toList]) =
        [⟨.identifier, "a", ⟨1, 1⟩⟩, ⟨.integer, "7", ⟨2, 1⟩⟩] := by
      decide +kernel
    have emits := (lexing_line_by_line "a\n7 \"x\r\n@").2 ["a".toList] "7 \"x\r".toList
      ["@".toList] ⟨⟨1, 3⟩, "\"x", .unterminatedString⟩ (by decide) ?_ (by decide +kernel)
    · rw [tokens] at emits
      exact emits.1
    · simp only [List.forall_mem_cons, List.not_mem_nil, String.ofList_toList]
      exact ⟨⟨[⟨.identifier, "a", ⟨1, 1⟩⟩, ⟨.eof, "", ⟨1, 2⟩⟩], by decide +kernel⟩, by simp⟩

end HttpSuite
