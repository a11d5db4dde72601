import HttpSuite.Emit
import HttpSuite.Proofs.Decimal
import HttpSuite.Proofs.Literal
import Mathlib.Data.List.Basic

/-!
# The statements of generated tests

A statement is code with literals in it; some literals hold a text of the program, others a text that
the program has no hand in. `requestParts` and `assertionParts` say which is which for both targets,
and the statements are exactly these parts one after the other (`toList_request`, `assertion_eq`), except
that an assertion has no statement if one of its integers cannot be written. The parts are unambiguous: a
statement determines the request (`request_injective`) or the assertion (`assertionLine_injective`) that
it was made from, and never looks like one of the other kind.
-/

namespace HttpSuite.Emit

open Text (literal)

/-! ## Constant texts

The texts of the generated code are compared as lists of characters: a text in quotes is the text of
such a list by definition, and a list is faster to look through. -/

/-- Text without line feeds and quotes. -/
def Plain (text : String) : Prop :=
  '\n' ∉ text.toList ∧ '"' ∉ text.toList

theorem plain_ofList {cs : List Char} (h : cs.all fun c => c != '\n' && c != '"') :
    Plain (String.ofList cs) := by
  rw [Plain, String.toList_ofList]
  constructor <;> intro hc <;> simpa using List.all_eq_true.1 h _ hc

theorem Plain.append {front back : String} (hf : Plain front) (hb : Plain back) :
    Plain (front ++ back) := by
  rw [Plain, String.toList_append, List.mem_append, List.mem_append, not_or, not_or]
  exact ⟨⟨hf.1, hb.1⟩, hf.2, hb.2⟩

/-- Texts that differ at some place are not the starts of one text. -/
theorem ofList_append_ne {cs ds as bs : List Char}
    (h : (cs.zip ds).any fun pair => pair.1 != pair.2) :
    (String.ofList cs).toList ++ as ≠ (String.ofList ds).toList ++ bs := by
  rw [String.toList_ofList, String.toList_ofList]
  induction cs generalizing ds with
  | nil => simp at h
  | cons c cs ih =>
    cases ds with
    | nil => simp at h
    | cons d ds =>
      intro equal
      obtain ⟨rfl, tail⟩ := List.cons.inj equal
      rw [List.zip_cons_cons, List.any_cons, bne_self_eq_false, Bool.false_or] at h
      exact ih h tail

theorem head?_ofList_append {c : Char} {cs as : List Char} :
    ((String.ofList (c :: cs)).toList ++ as).head? = some c := by
  rw [String.toList_ofList, List.cons_append, List.head?_cons]

/-- Two lists that are followed by something neither of them holds end at its first occurrence. -/
theorem append_cons_inj {α : Type} [BEq α] [LawfulBEq α] {d : α} {x y as bs : List α} (hx : d ∉ x)
    (hy : d ∉ y) (h : x ++ d :: as = y ++ d :: bs) : x = y ∧ as = bs := by
  have split := congrArg (List.splitOn d) h
  rw [List.splitOn_append_cons_self_of_not_mem hx,
    List.splitOn_append_cons_self_of_not_mem hy] at split
  obtain rfl := List.head_eq_of_cons_eq split
  exact ⟨rfl, (List.cons.inj (List.append_cancel_left h)).2⟩

/-! ## Numbers in statements -/

section Numbers

variable {n m : Int} {d : Char} {as bs : List Char}

theorem isDigit_or_minus_of_mem_repr {c : Char} (h : c ∈ n.repr.toList) :
    c.isDigit ∨ c = '-' := by
  cases n with
  | ofNat n => exact .inl (Number.isDigit_of_mem_repr h)
  | negSucc n =>
    rw [Int.repr, String.toList_append] at h
    rcases List.mem_append.1 h with h | h
    · exact .inr (List.mem_singleton.1 h)
    · exact .inl (Number.isDigit_of_mem_repr h)

theorem not_mem_repr (digit : d.isDigit = false) (minus : d ≠ '-') : d ∉ n.repr.toList := by
  intro hd
  rcases isDigit_or_minus_of_mem_repr hd with h | h
  · exact Number.ne_of_isDigit h digit rfl
  · exact minus h

/-- The integer has no more digits than are written. -/
def Fits (n : Int) : Prop :=
  Number.digitCount n.natAbs ≤ Number.maxDigits

instance (n : Int) : Decidable (Fits n) :=
  inferInstanceAs (Decidable (_ ≤ _))

theorem decimal_eq (n : Int) : decimal n = if Fits n then .ok (toString n) else .error .digits := by
  rw [decimal]
  by_cases fits : Fits n
  · rw [if_neg (Nat.not_lt.2 fits), if_pos fits]
  · rw [if_pos (Nat.lt_of_not_le fits), if_neg fits]

/-- The literal for a bound on a status. -/
def boundText (n : Int) : String :=
  if n ≤ JavaClass.intMax then toString n
  else if n ≤ JavaClass.longMax then toString n ++ "L"
  else "Long.MAX_VALUE"

/-- Past the range of `long` the digits are not written. -/
theorem intLiteral_eq (n : Int) :
    JavaClass.intLiteral n =
      if JavaClass.longMax < n ∨ Fits n then .ok (boundText n) else .error .digits := by
  have ordered : JavaClass.intMax ≤ JavaClass.longMax := by decide
  rw [JavaClass.intLiteral, boundText, decimal_eq]
  by_cases int : n ≤ JavaClass.intMax
  · have long : ¬ JavaClass.longMax < n := by omega
    simp only [if_pos int, long, false_or]
  · by_cases long : n ≤ JavaClass.longMax
    · have within : ¬ JavaClass.longMax < n := by omega
      simp only [if_neg int, if_pos long, within, false_or]
      by_cases fits : Fits n
      · simp only [if_pos fits]
        rfl
      · simp only [if_neg fits]
        rfl
    · have past : JavaClass.longMax < n := by omega
      simp only [if_neg int, if_neg long, past, true_or, if_true]

theorem not_mem_boundText (digit : d.isDigit = false) (other : d ∉ "-Long.MAX_VALUE".toList) :
    d ∉ (boundText n).toList := by
  have decimal : d ∉ (toString n).toList := by
    rw [Int.toString_eq_repr]
    refine not_mem_repr digit ?_
    rintro rfl
    exact other (by decide)
  rw [boundText]
  split
  · exact decimal
  · split
    · rw [String.toList_append, List.mem_append, not_or]
      refine ⟨decimal, fun hd => other ?_⟩
      rw [List.mem_singleton.1 hd]
      decide
    · exact fun hd => other (List.mem_cons_of_mem '-' hd)

/-- The digits of a natural number determine it. -/
theorem natRepr_injective {n m : Nat} (h : n.repr = m.repr) : n = m := by
  have digits : Nat.toDigits 10 n = Nat.toDigits 10 m := by
    rw [Nat.repr_eq_ofList_toDigits, Nat.repr_eq_ofList_toDigits] at h
    exact String.ofList_injective h
  rw [← Nat.ofDigitChars_ten_toDigits (n := n), digits, Nat.ofDigitChars_ten_toDigits]

theorem repr_injective (h : n.repr = m.repr) : n = m := by
  have sign : ∀ k l : Nat, k.repr ≠ "-" ++ l.repr := by
    intro k l h
    have minus : '-' ∈ k.repr.toList := by simp [h]
    exact absurd (Number.isDigit_of_mem_repr minus) (by decide)
  cases n with
  | ofNat n =>
    cases m with
    | ofNat m => exact congrArg Int.ofNat (natRepr_injective h)
    | negSucc m => exact absurd h (sign n (m + 1))
  | negSucc n =>
    cases m with
    | ofNat m => exact absurd h.symm (sign m (n + 1))
    | negSucc m =>
      have chars := congrArg String.toList h
      rw [Int.repr, Int.repr, String.toList_append, String.toList_append] at chars
      have tail := natRepr_injective (String.toList_inj.1 (List.append_cancel_left chars))
      exact congrArg Int.negSucc (Nat.succ.inj tail)

/-- Within the range of `long`, a number can be read off its literal: only a literal of type `long`
has a letter, its last one. -/
theorem boundText_injective (hn : n ≤ JavaClass.longMax) (hm : m ≤ JavaClass.longMax)
    (h : boundText n = boundText m) : n = m := by
  have plain_ne : ∀ k l : Int, k.repr ≠ l.repr ++ "L" := by
    intro k l h
    refine not_mem_repr (n := k) (d := 'L') (by decide) (by decide) ?_
    simp [h]
  simp only [boundText, if_pos hn, if_pos hm, Int.toString_eq_repr] at h
  split at h <;> split at h
  · exact repr_injective h
  · exact absurd h (plain_ne n m)
  · exact absurd h.symm (plain_ne m n)
  · have chars := congrArg String.toList h
    rw [String.toList_append, String.toList_append] at chars
    exact repr_injective (String.toList_inj.1 (List.append_cancel_right chars))

theorem repr_ne_empty : n.repr ≠ "" := by
  cases n <;> simp [Int.repr]

theorem boundText_ne_empty : boundText n ≠ "" := by
  rw [boundText]
  split
  · rw [Int.toString_eq_repr]
    exact repr_ne_empty
  · split <;> simp

/-- A text does not start with a character that it does not hold. -/
theorem append_ne_cons {text : String} (ne : text ≠ "") (hd : d ∉ text.toList) :
    text.toList ++ as ≠ d :: bs := by
  intro h
  obtain ⟨c, cs, chars⟩ := List.exists_cons_of_ne_nil (String.toList_eq_nil_iff.not.2 ne)
  rw [chars, List.cons_append] at h
  exact hd (by rw [chars, List.head_eq_of_cons_eq h]; exact List.mem_cons_self)

theorem plain_toString : Plain (toString n) := by
  rw [Int.toString_eq_repr]
  exact ⟨not_mem_repr (by decide) (by decide), not_mem_repr (by decide) (by decide)⟩

theorem plain_boundText : Plain (boundText n) :=
  ⟨not_mem_boundText (by decide) (by decide), not_mem_boundText (by decide) (by decide)⟩

end Numbers

/-! ## Parts of statements -/

/-- A piece of a statement. -/
inductive Part
  /-- Code that holds no literal. -/
  | code (text : String)
  /-- A literal whose text no string of the program reaches. -/
  | fixed (text : String)
  /-- A literal that holds a string of the program. -/
  | user (text : String)
  deriving DecidableEq, Repr

/-- How a piece is written. -/
def Part.chars : Part → List Char
  | .code text => text.toList
  | .fixed text => (literal text).toList
  | .user text => (literal text).toList

/-- The parts of the statement that sends a request. -/
def requestParts (target : Target) (settings : Settings) (node : Request) : List Part :=
  let (before, after) := match target with
    | .python => ("response = " ++ settings.targets.python.fixtureName ++ ".request(", ")")
    | .java => ("response = send(", ");")
  [.code before, .fixed node.method.text, .code ", ", .user node.path, .code after]

/-- The parts of the statement that checks the last response. -/
def assertionParts (target : Target) (node : Assertion) : List Part :=
  match target, node with
  | .python, .statusEquals code =>
    [.code "assert ", .code "response.status_code == ", .code (toString code)]
  | .python, .statusInRange min max =>
    [.code "assert ", .code (toString min), .code " <= response.status_code <= ",
      .code (toString max)]
  | .python, .bodyContains text => [.code "assert ", .user text, .code " in response.text"]
  | .python, .headerEquals name value =>
    [.code "assert ", .code "response.headers.get(", .user name, .code ") == ", .user value]
  | .java, .statusEquals code =>
    [.code "assertEquals(", .code (boundText code), .code ", response.statusCode());"]
  | .java, .statusInRange min max =>
    [.code "assertTrue(response.statusCode() >= ", .code (boundText min),
      .code " && response.statusCode() <= ", .code (boundText max), .code ", ",
      .fixed "status ", .code " + response.statusCode() + ",
      .fixed (" not in " ++ toString min ++ ".." ++ toString max), .code ");"]
  | .java, .bodyContains text =>
    [.code "assertTrue(response.body().contains(", .user text, .code "), ",
      .user ("body does not contain " ++ text), .code ");"]
  | .java, .headerEquals name value =>
    [.code "assertEquals(", .user value, .code ", response.headers().firstValue(", .user name,
      .code ").orElse(null));"]

theorem toList_request (target : Target) (settings : Settings) (node : Request) :
    (request target settings node).toList =
      (requestParts target settings node).flatMap Part.chars := by
  cases target <;> delta request PythonModule.request JavaClass.request <;>
    simp only [requestParts, Part.chars, List.flatMap_cons, List.flatMap_nil, List.append_nil,
      String.toList_append, List.append_assoc]

/-- The literal that names a range needs no escapes. -/
theorem toList_rangeLiteral (min max : Int) :
    (literal (" not in " ++ toString min ++ ".." ++ toString max)).toList =
      '"' :: (" not in " ++ toString min ++ ".." ++ toString max).toList ++ ['"'] := by
  have number : ∀ n : Int, ∀ c ∈ n.repr.toList, 0x20 ≤ c.toNat ∧ c ≠ '"' ∧ c ≠ '\\' := by
    intro n c hc
    rcases isDigit_or_minus_of_mem_repr hc with digit | rfl
    · have range := Number.toNat_of_isDigit digit
      exact ⟨by omega, Number.ne_of_isDigit digit rfl, Number.ne_of_isDigit digit rfl⟩
    · decide
  refine Text.toList_literal_of_plain fun c hc => ?_
  simp only [String.toList_append, List.mem_append, Int.toString_eq_repr] at hc
  rcases hc with ((hc | hc) | hc) | hc
  · revert c
    simp
  · exact number min c hc
  · revert c
    simp
  · exact number max c hc

/-- The statement that checks the last response. -/
def assertionLine (target : Target) (node : Assertion) : String :=
  String.ofList ((assertionParts target node).flatMap Part.chars)

theorem toList_assertionLine (target : Target) (node : Assertion) :
    (assertionLine target node).toList = (assertionParts target node).flatMap Part.chars :=
  String.toList_ofList

/-- The integers of an assertion can be written where its statement has them. -/
def Writable (target : Target) : Assertion → Prop
  | .statusEquals code => (target = .java ∧ JavaClass.longMax < code) ∨ Fits code
  | .statusInRange min max => Fits min ∧ Fits max
  | .bodyContains _ => True
  | .headerEquals _ _ => True

instance (target : Target) (node : Assertion) : Decidable (Writable target node) :=
  match node with
  | .statusEquals _ => inferInstanceAs (Decidable (_ ∨ _))
  | .statusInRange _ _ => inferInstanceAs (Decidable (_ ∧ _))
  | .bodyContains _ => inferInstanceAs (Decidable True)
  | .headerEquals _ _ => inferInstanceAs (Decidable True)

theorem ok_eq_assertionLine {target : Target} {node : Assertion} {text : String}
    (h : text.toList = (assertionParts target node).flatMap Part.chars) :
    (.ok text : Except Failure String) = .ok (assertionLine target node) := by
  rw [assertionLine, ← h, String.ofList_toList]

theorem pythonAssertion_eq (node : Assertion) :
    PythonModule.assertion node =
      if Writable .python node then .ok (assertionLine .python node) else .error .digits := by
  cases node with
  | statusEquals code =>
    have status : "assert response.status_code == " = "assert " ++ "response.status_code == " := rfl
    delta PythonModule.assertion
    simp only [Writable, decimal_eq, reduceCtorEq, false_and, false_or]
    split
    · refine ok_eq_assertionLine ?_
      simp only [assertionParts, Part.chars, List.flatMap_cons,
        List.flatMap_nil, List.append_nil, String.toList_append, List.append_assoc, status]
    · rfl
  | statusInRange min max =>
    delta PythonModule.assertion
    simp only [Writable, decimal_eq]
    by_cases low : Fits min
    · by_cases high : Fits max
      · simp only [low, high, and_self, if_true]
        refine ok_eq_assertionLine ?_
        simp only [assertionParts, Part.chars, List.flatMap_cons,
          List.flatMap_nil, List.append_nil, String.toList_append, List.append_assoc]
      · simp only [low, high, and_false, if_true, if_false]
        rfl
    · simp only [low, false_and, if_false]
      rfl
  | bodyContains text =>
    delta PythonModule.assertion
    refine ok_eq_assertionLine ?_
    simp only [assertionParts, Part.chars, List.flatMap_cons,
      List.flatMap_nil, List.append_nil, String.toList_append, List.append_assoc]
  | headerEquals name value =>
    have header : "assert response.headers.get(" = "assert " ++ "response.headers.get(" := rfl
    delta PythonModule.assertion
    refine ok_eq_assertionLine ?_
    simp only [assertionParts, Part.chars, List.flatMap_cons,
      List.flatMap_nil, List.append_nil, String.toList_append, List.append_assoc, header]

theorem javaAssertion_eq (node : Assertion) :
    JavaClass.assertion node =
      if Writable .java node then .ok (assertionLine .java node) else .error .digits := by
  cases node with
  | statusEquals code =>
    delta JavaClass.assertion
    simp only [Writable, intLiteral_eq, true_and]
    split
    · refine ok_eq_assertionLine ?_
      simp only [assertionParts, Part.chars, List.flatMap_cons,
        List.flatMap_nil, List.append_nil, String.toList_append, List.append_assoc]
    · rfl
  | statusInRange min max =>
    have before : ", \"status \" + response.statusCode() + \" not in " =
      ", " ++ literal "status " ++ " + response.statusCode() + " ++ "\"" ++ " not in " := rfl
    have after : "\");" = "\"" ++ ");" := rfl
    have quote : "\"".toList = ['"'] := rfl
    delta JavaClass.assertion
    simp only [Writable, intLiteral_eq, decimal_eq]
    -- The message has both integers in full, so a literal without digits does not help.
    by_cases low : Fits min
    · by_cases high : Fits max
      · simp only [low, high, or_true, and_self, if_true]
        refine ok_eq_assertionLine ?_
        simp only [assertionParts, Part.chars, List.flatMap_cons,
          List.flatMap_nil, List.append_nil, toList_rangeLiteral, before, after, quote,
          String.toList_append, List.append_assoc, List.cons_append, List.nil_append]
      · simp only [low, high, or_true, or_false, and_false, if_true, if_false]
        split <;> rfl
    · simp only [low, or_false, false_and, if_false]
      split
      · split <;> rfl
      · rfl
  | bodyContains text =>
    delta JavaClass.assertion
    refine ok_eq_assertionLine ?_
    simp only [assertionParts, Part.chars, List.flatMap_cons,
      List.flatMap_nil, List.append_nil, String.toList_append, List.append_assoc]
  | headerEquals name value =>
    delta JavaClass.assertion
    refine ok_eq_assertionLine ?_
    simp only [assertionParts, Part.chars, List.flatMap_cons,
      List.flatMap_nil, List.append_nil, String.toList_append, List.append_assoc]

/-- An assertion is written as its parts, unless it holds an integer that cannot be written. -/
theorem assertion_eq (target : Target) (node : Assertion) :
    assertion target node =
      if Writable target node then .ok (assertionLine target node) else .error .digits := by
  cases target with
  | python => exact pythonAssertion_eq node
  | java => exact javaAssertion_eq node

/-! ## Statements stay on one line -/

/-- Code without line feeds and quotes; literals never hold either. -/
def Part.Clean : Part → Prop
  | .code text => Plain text
  | .fixed _ => True
  | .user _ => True

theorem clean_requestParts {settings : Settings}
    (fixture : Plain settings.targets.python.fixtureName) (target : Target) (node : Request) :
    ∀ part ∈ requestParts target settings node, part.Clean := by
  cases target with
  | python =>
    simp only [requestParts, List.forall_mem_cons, Part.Clean]
    exact ⟨((plain_ofList rfl).append fixture).append (plain_ofList rfl), trivial, plain_ofList rfl,
      trivial, plain_ofList rfl, List.forall_mem_nil _⟩
  | java =>
    simp only [requestParts, List.forall_mem_cons, Part.Clean]
    exact ⟨plain_ofList rfl, trivial, plain_ofList rfl, trivial, plain_ofList rfl,
      List.forall_mem_nil _⟩

theorem clean_assertionParts (target : Target) (node : Assertion) :
    ∀ part ∈ assertionParts target node, part.Clean := by
  cases target with
  | python =>
    cases node <;> simp only [assertionParts, List.forall_mem_cons, Part.Clean]
    case statusEquals code =>
      exact ⟨plain_ofList rfl, plain_ofList rfl, plain_toString, List.forall_mem_nil _⟩
    case statusInRange min max =>
      exact ⟨plain_ofList rfl, plain_toString, plain_ofList rfl, plain_toString,
        List.forall_mem_nil _⟩
    case bodyContains text =>
      exact ⟨plain_ofList rfl, trivial, plain_ofList rfl, List.forall_mem_nil _⟩
    case headerEquals name value =>
      exact ⟨plain_ofList rfl, plain_ofList rfl, trivial, plain_ofList rfl, trivial,
        List.forall_mem_nil _⟩
  | java =>
    cases node <;> simp only [assertionParts, List.forall_mem_cons, Part.Clean]
    case statusEquals code =>
      exact ⟨plain_ofList rfl, plain_boundText, plain_ofList rfl, List.forall_mem_nil _⟩
    case statusInRange min max =>
      exact ⟨plain_ofList rfl, plain_boundText, plain_ofList rfl, plain_boundText,
        plain_ofList rfl, trivial, plain_ofList rfl, trivial, plain_ofList rfl,
        List.forall_mem_nil _⟩
    case bodyContains text =>
      exact ⟨plain_ofList rfl, trivial, plain_ofList rfl, trivial, plain_ofList rfl,
        List.forall_mem_nil _⟩
    case headerEquals name value =>
      exact ⟨plain_ofList rfl, trivial, plain_ofList rfl, trivial, plain_ofList rfl,
        List.forall_mem_nil _⟩

theorem newline_not_mem_parts {parts : List Part} (clean : ∀ part ∈ parts, part.Clean) :
    '\n' ∉ parts.flatMap Part.chars := by
  intro h
  obtain ⟨part, hpart, h⟩ := List.mem_flatMap.1 h
  cases part with
  | code text => exact (clean _ hpart).1 h
  | fixed text | user text => exact absurd (Text.printable_literal h) (by decide)

theorem newline_not_mem_request {settings : Settings}
    (fixture : Plain settings.targets.python.fixtureName) (target : Target) (node : Request) :
    '\n' ∉ (request target settings node).toList := by
  rw [toList_request]
  exact newline_not_mem_parts (clean_requestParts fixture target node)

theorem newline_not_mem_assertionLine (target : Target) (node : Assertion) :
    '\n' ∉ (assertionLine target node).toList := by
  rw [toList_assertionLine]
  exact newline_not_mem_parts (clean_assertionParts target node)

/-! ## Statements can be read back -/

/-- Text without quotes does not start like a literal. -/
theorem append_ne_literal {text other : String} {as bs : List Char} (ne : text ≠ "")
    (plain : Plain text) : text.toList ++ as ≠ (literal other).toList ++ bs := by
  rw [Text.toList_literal]
  exact append_ne_cons ne plain.2

theorem method_injective {a b : Method} (h : a.text = b.text) : a = b := by
  cases a <;> cases b <;> first | rfl | exact absurd h (by decide)

theorem request_injective {target : Target} {settings : Settings} {a b : Request}
    (h : request target settings a = request target settings b) : a = b := by
  have parts := congrArg String.toList h
  rw [toList_request, toList_request] at parts
  simp only [requestParts, Part.chars, List.flatMap_cons, List.flatMap_nil, List.append_nil] at parts
  obtain ⟨method, parts⟩ := Text.literal_append_inj (List.append_cancel_left parts)
  obtain ⟨path, -⟩ := Text.literal_append_inj (List.append_cancel_left parts)
  cases a
  cases b
  exact congrArg₂ Request.mk (method_injective method) path

theorem pythonLine_injective {a b : Assertion}
    (h : assertionLine .python a = assertionLine .python b) : a = b := by
  -- What follows the keyword is a name, a number or a literal.
  have number_ne_name : ∀ {n : Int} {cs as bs : List Char},
      (toString n).toList ++ as ≠ (String.ofList ('r' :: cs)).toList ++ bs := by
    intro n cs as bs
    rw [Int.toString_eq_repr, String.toList_ofList]
    exact append_ne_cons repr_ne_empty (not_mem_repr (by decide) (by decide))
  have number_ne_literal : ∀ {n : Int} {text : String} {as bs : List Char},
      (toString n).toList ++ as ≠ (literal text).toList ++ bs :=
    append_ne_literal (by rw [Int.toString_eq_repr]; exact repr_ne_empty) plain_toString
  have status_ne_literal : ∀ {text : String} {as bs : List Char},
      "response.status_code == ".toList ++ as ≠ (literal text).toList ++ bs :=
    append_ne_literal (by decide) (plain_ofList rfl)
  have header_ne_literal : ∀ {text : String} {as bs : List Char},
      "response.headers.get(".toList ++ as ≠ (literal text).toList ++ bs :=
    append_ne_literal (by decide) (plain_ofList rfl)
  have parts := congrArg String.toList h
  rw [toList_assertionLine, toList_assertionLine] at parts
  cases a <;> cases b <;>
    simp only [assertionParts, Part.chars, List.flatMap_cons] at parts <;>
    replace parts := List.append_cancel_left parts
  case statusEquals.statusEquals code other =>
    simp only [Int.toString_eq_repr] at parts
    have same := List.append_cancel_right (List.append_cancel_left parts)
    rw [repr_injective (String.toList_inj.1 same)]
  case statusEquals.statusInRange => exact absurd parts.symm number_ne_name
  case statusEquals.bodyContains => exact absurd parts status_ne_literal
  case statusEquals.headerEquals => exact absurd parts (ofList_append_ne rfl)
  case statusInRange.statusEquals => exact absurd parts number_ne_name
  case statusInRange.statusInRange min max min' max' =>
    simp only [Int.toString_eq_repr] at parts
    obtain ⟨hmin, rest⟩ := append_cons_inj (d := ' ') (not_mem_repr (by decide) (by decide))
      (not_mem_repr (by decide) (by decide)) parts
    have hmax := List.append_cancel_right (List.append_cancel_left rest)
    rw [repr_injective (String.toList_inj.1 hmin), repr_injective (String.toList_inj.1 hmax)]
  case statusInRange.bodyContains => exact absurd parts number_ne_literal
  case statusInRange.headerEquals => exact absurd parts number_ne_name
  case bodyContains.statusEquals => exact absurd parts.symm status_ne_literal
  case bodyContains.statusInRange => exact absurd parts.symm number_ne_literal
  case bodyContains.bodyContains => rw [(Text.literal_append_inj parts).1]
  case bodyContains.headerEquals => exact absurd parts.symm header_ne_literal
  case headerEquals.statusEquals => exact absurd parts (ofList_append_ne rfl)
  case headerEquals.statusInRange => exact absurd parts.symm number_ne_name
  case headerEquals.bodyContains => exact absurd parts header_ne_literal
  case headerEquals.headerEquals =>
    obtain ⟨rfl, rest⟩ := Text.literal_append_inj (List.append_cancel_left parts)
    rw [(Text.literal_append_inj (List.append_cancel_left rest)).1]

theorem rangeText_injective {min max min' max' : Int}
    (h : " not in " ++ toString min ++ ".." ++ toString max =
      " not in " ++ toString min' ++ ".." ++ toString max') : min = min' ∧ max = max' := by
  have chars := congrArg String.toList h
  simp only [String.toList_append, Int.toString_eq_repr, List.append_assoc] at chars
  obtain ⟨hmin, rest⟩ := append_cons_inj (d := '.') (not_mem_repr (by decide) (by decide))
    (not_mem_repr (by decide) (by decide)) (List.append_cancel_left chars)
  exact ⟨repr_injective (String.toList_inj.1 hmin),
    repr_injective (String.toList_inj.1 (List.append_cancel_left rest))⟩

/-- An assertion whose numbers can be read off its statement in a class: only an exact status past
the range of `long` cannot. -/
def FitsLong : Assertion → Prop
  | .statusEquals code => code ≤ JavaClass.longMax
  | _ => True

theorem javaLine_injective {a b : Assertion} (ha : FitsLong a) (hb : FitsLong b)
    (h : assertionLine .java a = assertionLine .java b) : a = b := by
  have number_ne_literal : ∀ {n : Int} {text : String} {as bs : List Char},
      (boundText n).toList ++ as ≠ (literal text).toList ++ bs :=
    append_ne_literal boundText_ne_empty plain_boundText
  have parts := congrArg String.toList h
  rw [toList_assertionLine, toList_assertionLine] at parts
  cases a <;> cases b <;> simp only [assertionParts, Part.chars, List.flatMap_cons] at parts
  case statusEquals.statusEquals code other =>
    have same := List.append_cancel_right (List.append_cancel_left parts)
    rw [boundText_injective ha hb (String.toList_inj.1 same)]
  case statusEquals.headerEquals =>
    exact absurd (List.append_cancel_left parts) number_ne_literal
  case statusInRange.statusInRange min max min' max' =>
    -- The bounds may be past the range of `long`, but the message names them in full.
    obtain ⟨-, rest⟩ := append_cons_inj (d := ' ') (not_mem_boundText (by decide) (by decide))
      (not_mem_boundText (by decide) (by decide)) (List.append_cancel_left parts)
    obtain ⟨-, rest⟩ := append_cons_inj (d := ',') (not_mem_boundText (by decide) (by decide))
      (not_mem_boundText (by decide) (by decide)) (List.append_cancel_left rest)
    obtain ⟨-, rest⟩ := Text.literal_append_inj (List.append_cancel_left rest)
    obtain ⟨range, -⟩ := Text.literal_append_inj (List.append_cancel_left rest)
    obtain ⟨rfl, rfl⟩ := rangeText_injective range
    rfl
  case bodyContains.bodyContains =>
    rw [(Text.literal_append_inj (List.append_cancel_left parts)).1]
  case headerEquals.statusEquals =>
    exact absurd (List.append_cancel_left parts.symm) number_ne_literal
  case headerEquals.headerEquals =>
    obtain ⟨rfl, rest⟩ := Text.literal_append_inj (List.append_cancel_left parts)
    rw [(Text.literal_append_inj (List.append_cancel_left rest)).1]
  -- The other pairs start with different code.
  all_goals exact absurd parts (ofList_append_ne rfl)

theorem assertionLine_injective {target : Target} {a b : Assertion} (ha : target = .java → FitsLong a)
    (hb : target = .java → FitsLong b) (h : assertionLine target a = assertionLine target b) : a = b := by
  cases target with
  | python => exact pythonLine_injective h
  | java => exact javaLine_injective (ha rfl) (hb rfl) h

/-- Every request is assigned to `response`. -/
theorem head?_request (target : Target) (settings : Settings) (node : Request) :
    (request target settings node).toList.head? = some 'r' := by
  rw [toList_request]
  cases target with
  | python =>
    simp only [requestParts, List.flatMap_cons, Part.chars, String.toList_append, List.append_assoc]
    exact head?_ofList_append
  | java => exact head?_ofList_append

/-- Every assertion is an `assert` of some kind. -/
theorem head?_assertionLine (target : Target) (node : Assertion) :
    (assertionLine target node).toList.head? = some 'a' := by
  rw [toList_assertionLine]
  cases target <;> cases node <;> exact head?_ofList_append

theorem request_ne_assertionLine (target : Target) (settings : Settings) (a : Request)
    (b : Assertion) : request target settings a ≠ assertionLine target b := by
  intro h
  have head := head?_request target settings a
  rw [h, head?_assertionLine] at head
  exact absurd head (by decide)

theorem request_ne_empty (target : Target) (settings : Settings) (node : Request) :
    request target settings node ≠ "" := by
  intro h
  have head := head?_request target settings node
  rw [h] at head
  cases head

theorem assertionLine_ne_empty (target : Target) (node : Assertion) : assertionLine target node ≠ "" := by
  intro h
  have head := head?_assertionLine target node
  rw [h] at head
  cases head

end HttpSuite.Emit
