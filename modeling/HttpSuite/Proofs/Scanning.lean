import HttpSuite.Proofs.Literal
import Mathlib.Data.List.Basic

/-!
# Scanning for literals

`scan` reads a text from left to right and cuts it into the code outside literals and the literals: a
quote outside opens a literal, and the next quote that no backslash escapes closes it.

Two texts are `Twin`s if they were built in step, from the same code and the same fixed literals, and
differ only in the strings that some of their literals hold. Scanning twins gives the same code and the
same number of literals, and in the same places the literals of the strings (`Twin.exists_alike`): no
string can open or close a literal that is not its own.
-/

namespace HttpSuite.Text

/-- A piece of a scanned text. -/
inductive Segment
  | code (c : Char)
  /-- What stands between the quotes of a literal. -/
  | literal (content : List Char)
  deriving DecidableEq, Repr

/-- Where a scan stands; inside a literal, with what it has read of it. -/
inductive ScanMode
  | outside
  | inside (content : List Char)
  /-- After a backslash. -/
  | escaped (content : List Char)

/-- Cut a text into code and literals. A literal that is never closed runs to the end. -/
def scan : ScanMode → List Char → List Segment
  | .outside, [] => []
  | .inside content, [] => [.literal content]
  | .escaped content, [] => [.literal content]
  | .outside, c :: cs => if c = '"' then scan (.inside []) cs else .code c :: scan .outside cs
  | .inside content, c :: cs =>
    if c = '"' then .literal content :: scan .outside cs
    else if c = '\\' then scan (.escaped (content ++ [c])) cs
    else scan (.inside (content ++ [c])) cs
  | .escaped content, c :: cs => scan (.inside (content ++ [c])) cs

/-- The segments of a text. -/
def segments (text : String) : List Segment :=
  scan .outside text.toList

/-- The code of a scanned text, with a gap for every literal. -/
def outline (segments : List Segment) : List (Option Char) :=
  segments.map fun
    | .code c => some c
    | .literal _ => none

/-- The literals of a scanned text, in order. -/
def literals (segments : List Segment) : List (List Char) :=
  segments.filterMap fun
    | .code _ => none
    | .literal content => some content

/-- The literals that are marked. -/
def marked (marks : List Bool) (literals : List (List Char)) : List (List Char) :=
  (marks.zip literals).filterMap fun (mark, content) => if mark then some content else none

/-- Two scanned texts with the same code. Their literals stand in the same places; at the marked ones
they hold the given strings, in order, and at the others they are equal. -/
structure Alike (marks : List Bool) (first second : List Segment) (s t : List String) : Prop where
  code : outline first = outline second
  count_first : (literals first).length = marks.length
  count_second : (literals second).length = marks.length
  strings_first : marked marks (literals first) = s.map (escape ·.toList)
  strings_second : marked marks (literals second) = t.map (escape ·.toList)
  others : marked (marks.map not) (literals first) = marked (marks.map not) (literals second)

namespace Alike

variable {marks : List Bool} {first second : List Segment} {s t : List String}

theorem cons_code (h : Alike marks first second s t) (c : Char) :
    Alike marks (.code c :: first) (.code c :: second) s t where
  code := congrArg (some c :: ·) h.code
  count_first := h.count_first
  count_second := h.count_second
  strings_first := h.strings_first
  strings_second := h.strings_second
  others := h.others

theorem cons_fixed (h : Alike marks first second s t) (content : List Char) :
    Alike (false :: marks) (.literal content :: first) (.literal content :: second) s t where
  code := congrArg (none :: ·) h.code
  count_first := congrArg (· + 1) h.count_first
  count_second := congrArg (· + 1) h.count_second
  strings_first := h.strings_first
  strings_second := h.strings_second
  others := congrArg (content :: ·) h.others

theorem cons_user (h : Alike marks first second s t) (x y : String) :
    Alike (true :: marks) (.literal (escape x.toList) :: first)
      (.literal (escape y.toList) :: second) (x :: s) (y :: t) where
  code := congrArg (none :: ·) h.code
  count_first := congrArg (· + 1) h.count_first
  count_second := congrArg (· + 1) h.count_second
  strings_first := congrArg (escape x.toList :: ·) h.strings_first
  strings_second := congrArg (escape y.toList :: ·) h.strings_second
  others := h.others

/-- Undoing the escapes of the marked literals gives the strings. -/
theorem decode_first (h : Alike marks first second s t) :
    (marked marks (literals first)).map decode = s.map (some ·.toList) := by
  rw [h.strings_first, List.map_map]
  exact List.map_congr_left fun x _ => decode_escape x.toList

theorem decode_second (h : Alike marks first second s t) :
    (marked marks (literals second)).map decode = t.map (some ·.toList) := by
  rw [h.strings_second, List.map_map]
  exact List.map_congr_left fun x _ => decode_escape x.toList

/-- No marked literal holds a raw control character. -/
theorem printable (h : Alike marks first second s t) :
    ∀ content ∈ marked marks (literals first) ++ marked marks (literals second),
      ∀ c ∈ content, 0x20 ≤ c.toNat := by
  intro content hcontent c hc
  rw [h.strings_first, h.strings_second, ← List.map_append] at hcontent
  obtain ⟨x, -, rfl⟩ := List.mem_map.1 hcontent
  exact printable_escape hc

end Alike

/-- A closed literal is scanned as a whole. -/
theorem scan_closed {body : List Char} (h : Closed body) (content rest : List Char) :
    scan (.inside content) (body ++ '"' :: rest) =
      .literal (content ++ body) :: scan .outside rest := by
  induction h generalizing content with
  | nil => simp [scan]
  | plain quote backslash _ ih => simp [scan, quote, backslash, ih]
  | escaped c _ ih => simp [scan, ih]

theorem scan_quoted {body : List Char} (h : Closed body) (rest : List Char) :
    scan .outside ('"' :: (body ++ '"' :: rest)) = .literal body :: scan .outside rest := by
  rw [scan, if_pos rfl, scan_closed h, List.nil_append]

theorem scan_literal (x : String) (rest : List Char) :
    scan .outside ((literal x).toList ++ rest) =
      .literal (escape x.toList) :: scan .outside rest := by
  rw [toList_literal, List.cons_append, List.append_assoc]
  exact scan_quoted (closed_escape _) rest

/-! ## Twins -/

/-- Two texts that were built in step, with the strings that their literals hold. -/
inductive Twin : List Char → List Char → List String → List String → Prop
  | nil : Twin [] [] [] []
  | code {c : Char} {as bs : List Char} {s t : List String} (quote : c ≠ '"')
      (rest : Twin as bs s t) : Twin (c :: as) (c :: bs) s t
  | fixed {body as bs : List Char} {s t : List String} (closed : Closed body)
      (rest : Twin as bs s t) :
      Twin ('"' :: (body ++ '"' :: as)) ('"' :: (body ++ '"' :: bs)) s t
  | user (x y : String) {as bs : List Char} {s t : List String} (rest : Twin as bs s t) :
      Twin ((literal x).toList ++ as) ((literal y).toList ++ bs) (x :: s) (y :: t)

namespace Twin

variable {as bs cs ds : List Char} {s t u v : List String}

theorem append (first : Twin as bs s t) (second : Twin cs ds u v) :
    Twin (as ++ cs) (bs ++ ds) (s ++ u) (t ++ v) := by
  induction first with
  | nil => exact second
  | code quote _ ih => exact .code quote ih
  | fixed closed _ ih =>
    simp only [List.cons_append, List.append_assoc]
    exact .fixed closed ih
  | user x y _ ih =>
    simp only [List.cons_append, List.append_assoc]
    exact .user x y ih

/-- The same code on both sides. -/
theorem of_code (h : '"' ∉ as) : Twin as as [] [] := by
  induction as with
  | nil => exact .nil
  | cons c as ih =>
    rw [List.mem_cons, not_or] at h
    exact .code (Ne.symm h.1) (ih h.2)

/-- The literal of a string on both sides, with any two strings. -/
theorem of_user (x y : String) : Twin (literal x).toList (literal y).toList [x] [y] := by
  simpa using Twin.user x y .nil

/-- The same literal on both sides. -/
theorem of_literal (x : String) : Twin (literal x).toList (literal x).toList [] [] := by
  rw [toList_literal]
  exact .fixed (closed_escape _) .nil

/-- **Twins are told apart only by their strings.** -/
theorem exists_alike (h : Twin as bs s t) :
    ∃ marks, Alike marks (scan .outside as) (scan .outside bs) s t := by
  -- The marks grow with the twins: one for every literal, set where a string stands.
  induction h with
  | nil => exact ⟨[], rfl, rfl, rfl, rfl, rfl, rfl⟩
  | @code c _ _ _ _ quote _ ih =>
    obtain ⟨marks, alike⟩ := ih
    rw [scan, if_neg quote, scan, if_neg quote]
    exact ⟨marks, alike.cons_code c⟩
  | fixed closed _ ih =>
    obtain ⟨marks, alike⟩ := ih
    rw [scan_quoted closed, scan_quoted closed]
    exact ⟨false :: marks, alike.cons_fixed _⟩
  | user x y _ ih =>
    obtain ⟨marks, alike⟩ := ih
    rw [scan_literal, scan_literal]
    exact ⟨true :: marks, alike.cons_user x y⟩

/-- A twin leaves no literal open, so what follows it is scanned on its own. -/
theorem scan_append (h : Twin as bs s t) (rest : List Char) :
    scan .outside (as ++ rest) = scan .outside as ++ scan .outside rest := by
  induction h with
  | nil => rfl
  | code quote _ ih =>
    rw [List.cons_append, scan, if_neg quote, scan, if_neg quote, ih, List.cons_append]
  | fixed closed _ ih =>
    rw [scan_quoted closed, List.cons_append, List.append_assoc, List.cons_append,
      scan_quoted closed, ih, List.cons_append]
  | user x y _ ih => rw [List.append_assoc, scan_literal, scan_literal, ih, List.cons_append]

end Twin

end HttpSuite.Text
