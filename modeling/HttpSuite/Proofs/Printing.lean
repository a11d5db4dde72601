import HttpSuite.Proofs.Lexing
import HttpSuite.Proofs.Parsing

/-!
# Printing

The trees of scripts are the expressible ones: names are identifiers, texts hold neither a quote nor
a line feed, and integers are at least zero and have at most `Number.maxDigits` digits. Two
directions make this an equality of sets (`parse_image_and_print`):

* **Only expressible trees** — a token of a text matches its kind (`lexical_of_mem_ofText`), so the
  value of every statement of an accepted script is expressible (`expressible_of_parse`).
* **All expressible trees** — a tree is spelled by a list of words (`Program.words`). Any text with
  these words, however they are set apart (`Written`), is read as the tree (`parse_written`); the
  canonical text is one of them.
-/

namespace HttpSuite

open Lexing Grammar

/-! ## Expressible trees -/

/-- A text that a string literal can hold. -/
def Quotable (text : String) : Prop :=
  ∀ c ∈ text.toList, c ≠ '"' ∧ c ≠ '\n'

/-- A name that a test can have: a word that is not reserved. -/
def Nameable (name : String) : Prop :=
  (∃ c cs, name.toList = c :: cs ∧ isWordStart c ∧ ∀ d ∈ cs, isWordPart d) ∧ name ∉ reservedWords

/-- An integer that a numeral can denote. -/
def Denotable (n : Int) : Prop :=
  0 ≤ n ∧ n < 10 ^ 4300

def Assertion.Expressible : Assertion → Prop
  | .statusEquals code => Denotable code
  | .statusInRange min max => Denotable min ∧ Denotable max
  | .bodyContains text => Quotable text
  | .headerEquals name value => Quotable name ∧ Quotable value

structure TestBlock.Expressible (test : TestBlock) : Prop where
  name : Nameable test.name
  requests : ∀ request ∈ test.requests, Quotable request.path
  assertions : ∀ assertion ∈ test.assertions, assertion.Expressible

/-- A script can be written for the tree. -/
def Program.Expressible (program : Program) : Prop :=
  ∀ test ∈ program.tests, test.Expressible

/-! ## Words -/

/-- A token without its place. -/
structure Word where
  kind : Kind
  text : String

def Token.word (token : Token) : Word := ⟨token.kind, token.text⟩

namespace Word

def keyword (word : Keyword) : Word := ⟨.keyword word, word.text⟩

def method (verb : Method) : Word := ⟨.method verb, verb.text⟩

def mark (punctuation : Mark) : Word := ⟨.mark punctuation, punctuation.text⟩

def name (text : String) : Word := ⟨.identifier, text⟩

def quoted (text : String) : Word := ⟨.string, "\"" ++ text ++ "\""⟩

def numeral (n : Int) : Word := ⟨.integer, toString n⟩

end Word

def Request.words (request : Request) : List Word :=
  [.method request.method, .quoted request.path, .mark .semicolon]

def Assertion.words : Assertion → List Word
  | .statusEquals code =>
    [.keyword .expect, .keyword .status, .mark .equals, .numeral code, .mark .semicolon]
  | .statusInRange min max =>
    [.keyword .expect, .keyword .status, .keyword .within, .numeral min, .mark .range, .numeral max,
      .mark .semicolon]
  | .bodyContains text =>
    [.keyword .expect, .keyword .body, .keyword .contains, .quoted text, .mark .semicolon]
  | .headerEquals name value =>
    [.keyword .expect, .keyword .header, .quoted name, .mark .equals, .quoted value,
      .mark .semicolon]

def TestBlock.words (test : TestBlock) : List Word :=
  [.keyword .test, .name test.name, .mark .openBrace] ++
    (test.requests.flatMap Request.words ++ test.assertions.flatMap Assertion.words) ++
    [.mark .closeBrace]

/-- The words of a tree: requests first in each test, then the expectations. -/
def Program.words (program : Program) : List Word :=
  program.tests.flatMap TestBlock.words

/-- The texts of a list of words, with spaces and line feeds between them. -/
inductive Written : List Word → List Char → Prop
  | nil : Written [] []
  | blank {c words text} : c = ' ' ∨ c = '\n' → Written words text → Written words (c :: text)
  | word {word words text} : Apart word.kind text → Written words text →
      Written (word :: words) (word.text.toList ++ text)

/-- What follows a word in the canonical text: braces and semicolons end a line. -/
def Word.separator (word : Word) : Char :=
  if word.kind ∈ [.mark .openBrace, .mark .closeBrace, .mark .semicolon] then '\n' else ' '

/-- The canonical text of a tree. -/
def Program.canonical (program : Program) : String :=
  String.ofList (program.words.flatMap fun word => word.text.toList ++ [word.separator])

/-- The canonical text, in lines. -/
example : Program.canonical ⟨[⟨"A", [⟨.get, "/x"⟩], [.statusInRange 200 299]⟩]⟩ =
    "test A \x7b\nGET \"/x\" ;\nexpect status in 200 .. 299 ;\n\x7d\n" := by
  decide

/-! ## Reading words back -/

/-- A word that is a token by itself. -/
structure Word.Lexical (word : Word) : Prop where
  matched : KindMatches word.kind word.text.toList
  reserved : ReservedRule word.kind word.text.toList

/-- Scanning finds the words of a written text. -/
theorem scan_written {words : List Word} {text : List Char} (h : Written words text)
    (hl : ∀ word ∈ words, word.Lexical) (position : Position) :
    ∃ tokens, Stream.scan position text = ⟨tokens, .eof (position.after text)⟩ ∧
      tokens.map Token.word = words := by
  induction h generalizing position with
  | nil => exact ⟨[], scan_stuck rfl position, rfl⟩
  | @blank c words text hc _ ih =>
    have layout : isLayout c := by
      rcases hc with rfl | rfl <;> decide
    obtain ⟨tokens, scanned, found⟩ := ih hl (position.next c)
    refine ⟨tokens, ?_, found⟩
    rw [scan_cut position (Cuts.blank layout)]
    exact scanned
  | @word word words text apart _ ih =>
    obtain ⟨matched, reserved⟩ := hl word List.mem_cons_self
    have longest := longest_of_apart matched reserved apart
    obtain ⟨tokens, scanned, found⟩ :=
      ih (fun other hm => hl other (List.mem_cons_of_mem word hm)) (position.after word.text.toList)
    refine ⟨⟨word.kind, word.text, position⟩ :: tokens, ?_, by rw [List.map_cons, found]; rfl⟩
    rw [scan_token longest, scanned, String.ofList_toList, Position.after, Position.after,
      Position.after, List.foldl_append]
    rfl

/-! ## The words of an expressible tree -/

theorem denotable_iff {n : Int} :
    Denotable n ↔ ∃ k : Nat, n = k ∧ k < 10 ^ Number.maxDigits := by
  show 0 ≤ n ∧ n < 10 ^ Number.maxDigits ↔ _
  -- the power is never evaluated
  generalize Number.maxDigits = limit
  constructor
  · rintro ⟨nonneg, bound⟩
    obtain ⟨k, rfl⟩ := Int.eq_ofNat_of_zero_le nonneg
    exact ⟨k, rfl, by exact_mod_cast bound⟩
  · rintro ⟨k, rfl, bound⟩
    exact ⟨Int.natCast_nonneg k, by exact_mod_cast bound⟩

theorem lexical_keyword (word : Keyword) : (Word.keyword word).Lexical := by
  refine ⟨rfl, iff_of_true (.inl rfl) ?_⟩
  rw [String.ofList_toList]
  exact keyword_mem_reservedWords word

theorem lexical_method (verb : Method) : (Word.method verb).Lexical := by
  refine ⟨rfl, iff_of_true (.inr rfl) ?_⟩
  rw [String.ofList_toList]
  exact method_mem_reservedWords verb

theorem lexical_mark (punctuation : Mark) : (Word.mark punctuation).Lexical := by
  obtain ⟨matched, reserved⟩ := (@Cuts.mark punctuation []).kind_spec
  exact ⟨matched, reserved⟩

theorem lexical_name {name : String} (h : Nameable name) : (Word.name name).Lexical := by
  refine ⟨h.1, iff_of_false ?_ ?_⟩
  · rintro (⟨⟨⟩⟩ | ⟨⟨⟩⟩)
  · rw [String.ofList_toList]
    exact h.2

theorem lexical_quoted {text : String} (h : Quotable text) : (Word.quoted text).Lexical := by
  have shape : (Word.quoted text).text.toList = '"' :: text.toList ++ ['"'] := by
    simp [Word.quoted]
  obtain ⟨matched, reserved⟩ := (@Cuts.string text.toList [] h).kind_spec
  rw [← shape] at matched reserved
  exact ⟨matched, reserved⟩

theorem lexical_numeral {n : Int} (h : Denotable n) : (Word.numeral n).Lexical := by
  obtain ⟨k, rfl, -⟩ := denotable_iff.1 h
  have ne : k.repr.toList ≠ [] := by
    rw [Nat.toList_repr]
    exact Nat.toDigits_ne_nil
  have digits : ∀ c ∈ k.repr.toList, c.isDigit := fun c => Number.isDigit_of_mem_repr
  refine ⟨⟨ne, digits⟩, ?_⟩
  show ReservedRule .integer k.repr.toList
  cases shape : k.repr.toList with
  | nil => exact absurd shape ne
  | cons c cs =>
    rw [shape, List.forall_mem_cons] at digits
    exact reservedRule_of_head (by decide) (not_isWordStart_of_isDigit digits.1)

theorem Request.lexical {request : Request} (h : Quotable request.path) :
    ∀ word ∈ request.words, word.Lexical := by
  simp only [Request.words, List.forall_mem_cons]
  exact ⟨lexical_method _, lexical_quoted h, lexical_mark _, List.forall_mem_nil _⟩

theorem Assertion.lexical {assertion : Assertion} (h : assertion.Expressible) :
    ∀ word ∈ assertion.words, word.Lexical := by
  cases assertion with
  | statusEquals code =>
    simp only [Assertion.words, List.forall_mem_cons]
    exact ⟨lexical_keyword _, lexical_keyword _, lexical_mark _, lexical_numeral h, lexical_mark _,
      List.forall_mem_nil _⟩
  | statusInRange min max =>
    simp only [Assertion.words, List.forall_mem_cons]
    exact ⟨lexical_keyword _, lexical_keyword _, lexical_keyword _, lexical_numeral h.1,
      lexical_mark _, lexical_numeral h.2, lexical_mark _, List.forall_mem_nil _⟩
  | bodyContains text =>
    simp only [Assertion.words, List.forall_mem_cons]
    exact ⟨lexical_keyword _, lexical_keyword _, lexical_keyword _, lexical_quoted h,
      lexical_mark _, List.forall_mem_nil _⟩
  | headerEquals name value =>
    simp only [Assertion.words, List.forall_mem_cons]
    exact ⟨lexical_keyword _, lexical_keyword _, lexical_quoted h.1, lexical_mark _,
      lexical_quoted h.2, lexical_mark _, List.forall_mem_nil _⟩

theorem TestBlock.lexical {test : TestBlock} (h : test.Expressible) :
    ∀ word ∈ test.words, word.Lexical := by
  simp only [TestBlock.words, List.forall_mem_append, List.forall_mem_cons, List.forall_mem_flatMap]
  refine ⟨⟨⟨lexical_keyword _, lexical_name h.name, lexical_mark _, List.forall_mem_nil _⟩, ?_, ?_⟩,
    lexical_mark _, List.forall_mem_nil _⟩
  · intro request hm
    exact Request.lexical (h.requests request hm)
  · intro assertion hm
    exact Assertion.lexical (h.assertions assertion hm)

theorem Program.lexical {program : Program} (h : program.Expressible) :
    ∀ word ∈ program.words, word.Lexical := by
  simp only [Program.words, List.forall_mem_flatMap]
  intro test hm
  exact TestBlock.lexical (h test hm)

/-! ## Trees from words -/

theorem unquoted_of_word {token : Token} {text : String} (h : token.word = .quoted text) :
    token.unquoted = text := by
  have spelling : token.text = "\"" ++ text ++ "\"" := congrArg Word.text h
  simp [Token.unquoted, spelling]

theorem integer_of_word {token : Token} {n : Int} (h : token.word = .numeral n)
    (hn : Denotable n) : token.integer = .ok n := by
  obtain ⟨k, rfl, bound⟩ := denotable_iff.1 hn
  have spelling : token.text = k.repr := congrArg Word.text h
  rw [Token.integer, spelling, Number.ofNumeral_repr bound]

theorem exists_request {request : Request} {tokens : List Token}
    (h : tokens.map Token.word = request.words) :
    ∃ statement tree, StatementTree statement tokens tree ∧
      statement.content = .ok (.inl request) := by
  simp only [Request.words, List.map_eq_cons_iff, List.map_eq_nil_iff] at h
  obtain ⟨method, _, rfl, hm, path, _, rfl, hp, semicolon, _, rfl, hs, rfl⟩ := h
  refine ⟨_, _, .request (congrArg Word.kind hm) (congrArg Word.kind hp) (congrArg Word.kind hs), ?_⟩
  rw [Statement.content, method_of_text (congrArg Word.text hm).symm, unquoted_of_word hp]
  rfl

theorem exists_assertion {assertion : Assertion} {tokens : List Token}
    (he : assertion.Expressible) (h : tokens.map Token.word = assertion.words) :
    ∃ statement tree, StatementTree statement tokens tree ∧
      statement.content = .ok (.inr assertion) := by
  cases assertion with
  | statusEquals code =>
    simp only [Assertion.words, List.map_eq_cons_iff, List.map_eq_nil_iff] at h
    obtain ⟨expect, _, rfl, hx, status, _, rfl, ht, equals, _, rfl, hq, number, _, rfl, hn, semicolon,
      _, rfl, hs, rfl⟩ := h
    refine ⟨_, _, .statusEquals (congrArg Word.kind hx) (congrArg Word.kind ht)
      (congrArg Word.kind hq) (congrArg Word.kind hn) (congrArg Word.kind hs), ?_⟩
    rw [Statement.content, integer_of_word hn he]
    rfl
  | statusInRange min max =>
    simp only [Assertion.words, List.map_eq_cons_iff, List.map_eq_nil_iff] at h
    obtain ⟨expect, _, rfl, hx, status, _, rfl, ht, within, _, rfl, hw, low, _, rfl, hl, range, _, rfl,
      hr, high, _, rfl, hh, semicolon, _, rfl, hs, rfl⟩ := h
    refine ⟨_, _, .statusInRange (congrArg Word.kind hx) (congrArg Word.kind ht)
      (congrArg Word.kind hw) (congrArg Word.kind hl) (congrArg Word.kind hr)
      (congrArg Word.kind hh) (congrArg Word.kind hs), ?_⟩
    rw [Statement.content, integer_of_word hl he.1, integer_of_word hh he.2]
    rfl
  | bodyContains text =>
    simp only [Assertion.words, List.map_eq_cons_iff, List.map_eq_nil_iff] at h
    obtain ⟨expect, _, rfl, hx, body, _, rfl, hb, contains, _, rfl, hc, part, _, rfl, hp, semicolon, _,
      rfl, hs, rfl⟩ := h
    refine ⟨_, _, .bodyContains (congrArg Word.kind hx) (congrArg Word.kind hb)
      (congrArg Word.kind hc) (congrArg Word.kind hp) (congrArg Word.kind hs), ?_⟩
    rw [Statement.content, unquoted_of_word hp]
    rfl
  | headerEquals name value =>
    simp only [Assertion.words, List.map_eq_cons_iff, List.map_eq_nil_iff] at h
    obtain ⟨expect, _, rfl, hx, header, _, rfl, hh, field, _, rfl, hf, equals, _, rfl, hq, content, _,
      rfl, hc, semicolon, _, rfl, hs, rfl⟩ := h
    refine ⟨_, _, .headerEquals (congrArg Word.kind hx) (congrArg Word.kind hh)
      (congrArg Word.kind hf) (congrArg Word.kind hq) (congrArg Word.kind hc)
      (congrArg Word.kind hs), ?_⟩
    rw [Statement.content, unquoted_of_word hf, unquoted_of_word hc]
    rfl

/-- Values that are read back from their words one by one are read back as a list. -/
theorem exists_listed {α β : Type} {Parsed : α → List Token → Tree → Prop}
    {read : α → Except UnreadableToken β} {spell : β → List Word} {values : List β}
    {tokens : List Token} (h : tokens.map Token.word = values.flatMap spell)
    (single : ∀ value ∈ values, ∀ part, part.map Token.word = spell value →
      ∃ item tree, Parsed item part tree ∧ read item = .ok value) :
    ∃ items trees, Listed Parsed items tokens trees ∧ items.mapM read = .ok values := by
  induction values generalizing tokens with
  | nil =>
    rw [List.flatMap_nil, List.map_eq_nil_iff] at h
    subst h
    exact ⟨[], [], .nil, rfl⟩
  | cons value values ih =>
    rw [List.flatMap_cons, List.map_eq_append_iff] at h
    obtain ⟨front, back, rfl, hf, hb⟩ := h
    obtain ⟨item, tree, parsed, hv⟩ := single value List.mem_cons_self front hf
    obtain ⟨items, trees, listed, hvs⟩ :=
      ih hb fun other hm => single other (List.mem_cons_of_mem value hm)
    refine ⟨item :: items, tree :: trees, .cons parsed listed, ?_⟩
    rw [List.mapM_cons, hv, hvs]
    rfl

/-- The requests and the assertions of a test in the order in which they are printed. -/
def TestBlock.contents (test : TestBlock) : List (Request ⊕ Assertion) :=
  test.requests.map .inl ++ test.assertions.map .inr

theorem TestBlock.contents_words (test : TestBlock) :
    test.contents.flatMap (Sum.elim Request.words Assertion.words) =
      test.requests.flatMap Request.words ++ test.assertions.flatMap Assertion.words := by
  rw [contents, List.flatMap_append, List.flatMap_map, List.flatMap_map]
  rfl

theorem TestBlock.filterMap_contents (test : TestBlock) :
    test.contents.filterMap Sum.getLeft? = test.requests ∧
      test.contents.filterMap Sum.getRight? = test.assertions := by
  simp [contents, List.filterMap_append, List.filterMap_map, Function.comp_def]

theorem exists_block {test : TestBlock} {tokens : List Token} (he : test.Expressible)
    (h : tokens.map Token.word = test.words) :
    ∃ block tree, BlockTree block tokens tree ∧ block.test = .ok test := by
  rw [TestBlock.words, ← TestBlock.contents_words] at h
  simp only [List.cons_append, List.nil_append, List.map_eq_append_iff, List.map_eq_cons_iff,
    List.map_eq_nil_iff] at h
  obtain ⟨keyword, _, rfl, hk, name, _, rfl, hn, openBrace, _, rfl, ho, body, _, rfl, hb, closeBrace,
    _, rfl, hc, rfl⟩ := h
  obtain ⟨statements, trees, listed, read⟩ : ∃ statements trees,
      Listed StatementTree statements body trees ∧
        statements.mapM Statement.content = .ok test.contents := by
    apply exists_listed hb
    rintro (request | assertion) hm part hp
    · exact exists_request hp
    · refine exists_assertion (he.assertions assertion ?_) hp
      simpa [TestBlock.contents] using hm
  refine ⟨_, _, .mk (congrArg Word.kind hk) (congrArg Word.kind hn) (congrArg Word.kind ho) listed
    (congrArg Word.kind hc), ?_⟩
  obtain ⟨requests, assertions⟩ := test.filterMap_contents
  have title : name.text = test.name := congrArg Word.text hn
  rw [Block.test, read]
  show Except.ok (TestBlock.mk _ _ _) = _
  rw [requests, assertions, title]

theorem exists_script {program : Program} {tokens : List Token} (he : program.Expressible)
    (h : tokens.map Token.word = program.words) :
    ∃ blocks trees, Listed BlockTree blocks tokens trees ∧
      Program.ofBlocks blocks = .ok program := by
  obtain ⟨blocks, trees, listed, read⟩ :=
    exists_listed h fun test hm part hp => exists_block (he test hm) hp
  refine ⟨blocks, trees, listed, ?_⟩
  rw [Program.ofBlocks, read]
  rfl

/-! ## Texts and trees -/

/-- However the words of an expressible tree are written, they are read as the tree. -/
theorem parse_written {program : Program} {source : String} (he : program.Expressible)
    (h : Written program.words source.toList) : parse source = .ok program := by
  obtain ⟨tokens, scanned, found⟩ := scan_written h (Program.lexical he) .start
  obtain ⟨blocks, trees, listed, read⟩ := exists_script he found
  exact parse_ok_iff.2 ⟨tokens, _, blocks, trees, scanned, listed, read⟩

/-- The canonical text is a way to write the words of a tree. -/
theorem written_canonical (program : Program) :
    Written program.words program.canonical.toList := by
  rw [Program.canonical, String.toList_ofList]
  induction program.words with
  | nil => exact .nil
  | cons word words ih =>
    rw [List.flatMap_cons, List.append_assoc]
    have blank : word.separator = ' ' ∨ word.separator = '\n' := by
      rw [Word.separator]
      split
      · exact .inr rfl
      · exact .inl rfl
    -- no word goes on with a separator
    refine .word (Stops.apart ?_ word.kind) (.blank blank ih)
    rintro _ _ ⟨⟩
    rcases blank with eq | eq <;> rw [eq] <;> decide

/-! ## Trees of texts -/

theorem lexical_of_mem_ofText {source : String} {token : Token}
    (h : token ∈ (Stream.ofText source).tokens) : token.word.Lexical := by
  obtain ⟨behind, longest⟩ := longest_of_mem_ofText h
  exact ⟨longest.matched, longest.reserved⟩

theorem quotable_unquoted {token : Token} (h : token.word.Lexical) (hk : token.kind = .string) :
    Quotable token.unquoted := by
  have matched : KindMatches token.kind token.text.toList := h.matched
  rw [hk] at matched
  obtain ⟨cs, shape, hcs⟩ := matched
  intro c hc
  apply hcs
  simpa [Token.unquoted, shape] using hc

theorem denotable_integer {token : Token} {n : Int} (h : token.word.Lexical)
    (hk : token.kind = .integer) (read : token.integer = .ok n) : Denotable n := by
  have matched : KindMatches token.kind token.text.toList := h.matched
  rw [hk] at matched
  obtain ⟨ne, digits⟩ := matched
  rw [Token.integer] at read
  split at read
  · rename_i value numeral
    obtain rfl := Except.ok.inj read
    exact Number.bounds_of_ofNumeral (by simpa using ne) digits numeral
  · cases read

theorem nameable_text {token : Token} (h : token.word.Lexical) (hk : token.kind = .identifier) :
    Nameable token.text := by
  obtain ⟨matched, reserved⟩ := h
  change KindMatches token.kind token.text.toList at matched
  change ReservedRule token.kind token.text.toList at reserved
  rw [hk] at matched reserved
  refine ⟨matched, ?_⟩
  intro hm
  rw [ReservedRule, String.ofList_toList] at reserved
  simpa [Kind.isKeyword, Kind.isMethod] using reserved.2 hm

/-- What a statement made of tokens says is expressible. -/
theorem expressible_content {statement : Statement} {tokens : List Token} {tree : Tree}
    {content : Request ⊕ Assertion} (h : StatementTree statement tokens tree)
    (lexical : ∀ token ∈ tokens, token.word.Lexical) (read : statement.content = .ok content) :
    content.elim (fun request => Quotable request.path) Assertion.Expressible := by
  cases h with
  | @request method path semicolon verb hm hp hs =>
    obtain ⟨verb, -, made⟩ := exists_of_bind_ok read
    obtain rfl := Except.ok.inj made
    exact quotable_unquoted (lexical path (by simp)) hp
  | @statusEquals expect status equals code semicolon he ht hq hc hs =>
    obtain ⟨value, number, made⟩ := exists_of_bind_ok read
    obtain rfl := Except.ok.inj made
    exact denotable_integer (lexical code (by simp)) hc number
  | @statusInRange expect status within min range max semicolon he ht hw hm hg hx hs =>
    obtain ⟨low, lowest, rest⟩ := exists_of_bind_ok read
    obtain ⟨high, highest, made⟩ := exists_of_bind_ok rest
    obtain rfl := Except.ok.inj made
    exact ⟨denotable_integer (lexical min (by simp)) hm lowest,
      denotable_integer (lexical max (by simp)) hx highest⟩
  | @bodyContains expect body contains text semicolon he hb hc ht hs =>
    obtain rfl := Except.ok.inj read
    exact quotable_unquoted (lexical text (by simp)) ht
  | @headerEquals expect header name equals value semicolon he hh hn hq hv hs =>
    obtain rfl := Except.ok.inj read
    exact ⟨quotable_unquoted (lexical name (by simp)) hn,
      quotable_unquoted (lexical value (by simp)) hv⟩

/-- Values of listed items have a property that the value of each item has. -/
theorem forall_of_listed {α β : Type} {Parsed : α → List Token → Tree → Prop}
    {read : α → Except UnreadableToken β} {Good : β → Prop} {items : List α} {tokens : List Token}
    {trees : List Tree} {values : List β} (h : Listed Parsed items tokens trees)
    (lexical : ∀ token ∈ tokens, token.word.Lexical) (hv : items.mapM read = .ok values)
    (single : ∀ item tokens tree value, Parsed item tokens tree →
      (∀ token ∈ tokens, token.word.Lexical) → read item = .ok value → Good value) :
    ∀ value ∈ values, Good value := by
  induction h generalizing values with
  | nil =>
    obtain rfl : [] = values := Except.ok.inj hv
    exact List.forall_mem_nil _
  | @cons item items front back tree trees parsed _ ih =>
    rw [List.forall_mem_append] at lexical
    rw [List.mapM_cons] at hv
    obtain ⟨value, first, behind⟩ := exists_of_bind_ok hv
    obtain ⟨others, rest, made⟩ := exists_of_bind_ok behind
    obtain rfl : value :: others = values := Except.ok.inj made
    rw [List.forall_mem_cons]
    exact ⟨single _ _ _ _ parsed lexical.1 first, ih lexical.2 rest⟩

theorem expressible_test {block : Block} {tokens : List Token} {tree : Tree} {test : TestBlock}
    (h : BlockTree block tokens tree) (lexical : ∀ token ∈ tokens, token.word.Lexical)
    (read : block.test = .ok test) : test.Expressible := by
  cases h with
  | @mk keyword name openBrace closeBrace statements body trees hk hn ho listed hc =>
    obtain ⟨contents, hv, made⟩ := exists_of_bind_ok read
    obtain rfl := Except.ok.inj made
    have inside : ∀ token ∈ body, token.word.Lexical := fun token hm => lexical token (by simp [hm])
    -- the requests and the assertions are what the statements say, sorted apart
    have said := forall_of_listed listed inside hv fun _ _ _ _ => expressible_content
    refine ⟨nameable_text (lexical name (by simp)) hn, ?_, ?_⟩
    · intro request hm
      obtain ⟨content, member, left⟩ := List.mem_filterMap.1 hm
      obtain rfl := Sum.getLeft?_eq_some_iff.1 left
      exact said _ member
    · intro assertion hm
      obtain ⟨content, member, right⟩ := List.mem_filterMap.1 hm
      obtain rfl := Sum.getRight?_eq_some_iff.1 right
      exact said _ member

/-- The tree of a text is expressible. -/
theorem expressible_of_parse {source : String} {program : Program}
    (h : parse source = .ok program) : program.Expressible := by
  obtain ⟨tokens, position, blocks, trees, stream, listed, read⟩ := parse_ok_iff.1 h
  obtain ⟨tests, hv, made⟩ := exists_of_bind_ok read
  obtain rfl := Except.ok.inj made
  have lexical : ∀ token ∈ tokens, token.word.Lexical := by
    intro token hm
    apply lexical_of_mem_ofText
    rw [stream]
    exact hm
  exact forall_of_listed listed lexical hv fun _ _ _ _ => expressible_test

/-- **Parsing and printing.** The trees of texts are exactly the expressible ones; and an expressible
tree is the tree of its canonical text, as of every other text with the same words. -/
theorem parse_image_and_print (program : Program) :
    ((∃ source, parse source = .ok program) ↔ program.Expressible) ∧
      (program.Expressible →
        parse program.canonical = .ok program ∧
          ∀ source : String, Written program.words source.toList →
            parse source = .ok program) := by
  have printed : program.Expressible → parse program.canonical = .ok program :=
    fun he => parse_written he (written_canonical program)
  refine ⟨⟨?_, ?_⟩, ?_⟩
  · rintro ⟨source, h⟩
    exact expressible_of_parse h
  · intro he
    exact ⟨program.canonical, printed he⟩
  · intro he
    exact ⟨printed he, fun source h => parse_written he h⟩

/-- A name that starts like a reserved word, a path with slashes and a brace, and an empty test; and a
text with leading zeros and no blanks but one. -/
theorem parse_print_two_tests :
    parse (Program.canonical
        ⟨[⟨"in0", [⟨.get, "//\x7d"⟩], [.statusInRange 200 299]⟩, ⟨"B", [], []⟩]⟩) =
      .ok ⟨[⟨"in0", [⟨.get, "//\x7d"⟩], [.statusInRange 200 299]⟩, ⟨"B", [], []⟩]⟩ ∧
    Program.Expressible ⟨[⟨"C", [], [.statusEquals 7]⟩]⟩ := by
  have small : ∀ k : Nat, k < 10 ^ 3 → Denotable k := by
    intro k bound
    refine denotable_iff.2 ⟨k, rfl, Nat.lt_of_lt_of_le bound ?_⟩
    exact Nat.pow_le_pow_right (by decide) (by decide)
  have expressible : Program.Expressible
      ⟨[⟨"in0", [⟨.get, "//\x7d"⟩], [.statusInRange 200 299]⟩, ⟨"B", [], []⟩]⟩ := by
    simp only [Program.Expressible, List.forall_mem_cons]
    refine ⟨⟨⟨⟨'i', ['n', '0'], by decide, by decide, List.all_eq_true.1 (by decide)⟩, by decide⟩,
      ?_, ?_⟩,
      ⟨⟨⟨'B', [], by decide, by decide, List.forall_mem_nil _⟩, by decide⟩, by simp, by simp⟩,
      List.forall_mem_nil _⟩
    · simp [Quotable]
    · simp only [List.forall_mem_cons]
      exact ⟨⟨small 200 (by decide), small 299 (by decide)⟩,
        List.forall_mem_nil _⟩
  have stream : Stream.ofText "test C\x7bexpect status=007;\x7d" =
      ⟨[⟨.keyword .test, "test", 1, 1⟩, ⟨.identifier, "C", 1, 6⟩, ⟨.mark .openBrace, "\x7b", 1, 7⟩,
        ⟨.keyword .expect, "expect", 1, 8⟩, ⟨.keyword .status, "status", 1, 15⟩,
        ⟨.mark .equals, "=", 1, 21⟩, ⟨.integer, "007", 1, 22⟩, ⟨.mark .semicolon, ";", 1, 25⟩,
        ⟨.mark .closeBrace, "\x7d", 1, 26⟩], .eof ⟨1, 27⟩⟩ := by
    decide +kernel
  have read : parse "test C\x7bexpect status=007;\x7d" = .ok ⟨[⟨"C", [], [.statusEquals 7]⟩]⟩ := by
    rw [parse, stream]
    rfl
  exact ⟨((parse_image_and_print _).2 expressible).1, (parse_image_and_print _).1.1 ⟨_, read⟩⟩

end HttpSuite
