import HttpSuite.Proofs.Decimal
import HttpSuite.Proofs.Reading

/-!
# Parsing follows the grammar

A token list has a tree exactly if the kinds before its end form a script, and the tree is the one
that its derivation stands for (`parseTokens_iff_derivation`); any other list is a syntax fault. The
values are those of the tokens: a run of digits is read as its decimal value and a verb as the one
that its text names, as long as the tokens are `Readable`.

Trees and readings are compared by `Evaluates`: a tree stands for exactly one value, and reading the
statements gives it. Statements, bodies, blocks and scripts each have one lemma for that.
-/

namespace HttpSuite.Grammar

/-! ## Values -/

/-- Tokens that can be read: integers are runs of decimal digits within the limit, and verbs are
spelled as one of the four. -/
structure Readable (tokens : List Token) : Prop where
  integers : ∀ token ∈ tokens, token.kind = .integer →
    token.text ≠ "" ∧ (∀ c ∈ token.text.toList, c.isDigit) ∧ token.text.length ≤ Number.maxDigits
  methods : ∀ token ∈ tokens, token.kind.isMethod →
    token.text ∈ ["GET", "POST", "PUT", "DELETE"]

theorem Readable.of_subset {tokens part : List Token} (h : Readable tokens) (hs : part ⊆ tokens) :
    Readable part :=
  ⟨fun token hm => h.integers token (hs hm), fun token hm => h.methods token (hs hm)⟩

theorem Readable.integer {tokens : List Token} {token : Token} (h : Readable tokens)
    (hm : token ∈ tokens) (hk : token.kind = .integer) : token.integer = .ok (decimal token) := by
  obtain ⟨ne, digits, length⟩ := h.integers token hm hk
  rw [Token.integer, Number.ofNumeral_of_isDigit ne digits, if_neg (by omega)]
  rfl

theorem ofText?_text (verb : Method) : Method.ofText? verb.text = some verb := by
  cases verb <;> decide

theorem method_of_text {token : Token} {verb : Method} (h : verb.text = token.text) :
    token.method = .ok verb := by
  rw [Token.method, ← h, ofText?_text]

theorem Readable.method {tokens : List Token} {token : Token} {verb : Method} (h : Readable tokens)
    (hm : token ∈ tokens) (hk : token.kind = .method verb) :
    ∃ named : Method, named.text = token.text ∧ token.method = .ok named := by
  have spelled := h.methods token hm (by rw [hk]; rfl)
  obtain ⟨named, ht⟩ : ∃ named : Method, named.text = token.text := by
    simp only [List.mem_cons, List.not_mem_nil, or_false] at spelled
    rcases spelled with ht | ht | ht | ht
    · exact ⟨.get, ht.symm⟩
    · exact ⟨.post, ht.symm⟩
    · exact ⟨.put, ht.symm⟩
    · exact ⟨.delete, ht.symm⟩
  exact ⟨named, ht, method_of_text ht⟩

theorem exists_of_bind_ok {ε α β : Type} {first : Except ε α} {next : α → Except ε β} {result : β}
    (h : first >>= next = .ok result) : ∃ value, first = .ok value ∧ next value = .ok result := by
  cases first with
  | error fault => cases h
  | ok value => exact ⟨value, rfl, h⟩

/-- What a statement tree stands for, be it a request or an assertion. -/
inductive DenotesStatement : Tree → Request ⊕ Assertion → Prop
  | request {tree request} :
      DenotesRequest tree request → DenotesStatement (.node .statement [tree]) (.inl request)
  | assertion {tree assertion} :
      DenotesAssertion tree assertion → DenotesStatement (.node .statement [tree]) (.inr assertion)

theorem denotesBody_iff {trees : List Tree} {requests : List Request}
    {assertions : List Assertion} :
    DenotesBody trees requests assertions ↔
      ∃ contents, List.Forall₂ DenotesStatement trees contents ∧
        contents.filterMap Sum.getLeft? = requests ∧
        contents.filterMap Sum.getRight? = assertions := by
  constructor
  · intro h
    induction h with
    | nil => exact ⟨[], .nil, rfl, rfl⟩
    | request hr _ ih =>
      obtain ⟨contents, hc, rfl, rfl⟩ := ih
      exact ⟨_ :: contents, .cons (.request hr) hc, rfl, rfl⟩
    | assertion ha _ ih =>
      obtain ⟨contents, hc, rfl, rfl⟩ := ih
      exact ⟨_ :: contents, .cons (.assertion ha) hc, rfl, rfl⟩
  · rintro ⟨contents, hc, rfl, rfl⟩
    induction hc with
    | nil => exact .nil
    | cons hs _ ih =>
      cases hs with
      | request hr => exact .request hr ih
      | assertion ha => exact .assertion ha ih

theorem denotesTest_iff {test name openBrace closeBrace : Token} {body : List Tree}
    {block : TestBlock} :
    DenotesTest
        (.node .test (.leaf test :: .leaf name :: .leaf openBrace :: body ++ [.leaf closeBrace]))
        block ↔
      block.name = name.text ∧ DenotesBody body block.requests block.assertions := by
  constructor
  · intro h
    generalize hc : (Tree.leaf test :: .leaf name :: .leaf openBrace :: body ++ [.leaf closeBrace]) =
      children at h
    cases h with
    | mk hb =>
      simp only [List.cons_append, List.cons.injEq, Tree.leaf.injEq] at hc
      obtain ⟨-, rfl, -, hc⟩ := hc
      obtain ⟨rfl, -⟩ := List.append_inj' hc rfl
      exact ⟨rfl, hb⟩
  · obtain ⟨_, requests, assertions⟩ := block
    rintro ⟨rfl, hb⟩
    exact .mk hb

theorem unquoted_eq_inner (token : Token) : token.unquoted = inner token := by
  rw [Token.unquoted, inner, List.drop_one]

/-- A tree stands for one value, and a reading gives it. -/
def Evaluates {β : Type} (Denotes : Tree → β → Prop) (tree : Tree)
    (result : Except UnreadableToken β) : Prop :=
  ∃ value, result = .ok value ∧ Denotes tree value ∧ ∀ other, Denotes tree other → other = value

theorem statement_evaluates {statement : Statement} {tokens : List Token} {tree : Tree}
    (h : StatementTree statement tokens tree) (hr : Readable tokens) :
    Evaluates DenotesStatement tree statement.content := by
  cases h with
  | @request method path semicolon verb hk hp hs =>
    obtain ⟨named, ht, hm⟩ := hr.method List.mem_cons_self hk
    refine ⟨.inl ⟨named, inner path⟩, ?_, .request (.mk ht), ?_⟩
    · rw [Statement.content, hm, unquoted_eq_inner]
      rfl
    · rintro _ (⟨⟨hv⟩⟩ | ⟨⟨⟩⟩)
      -- both verbs are the one that the token names
      have same := Except.ok.inj ((method_of_text hv).symm.trans hm)
      rw [same]
  | @statusEquals expect status equals code semicolon he ht hq hc hs =>
    refine ⟨.inr (.statusEquals (decimal code)), ?_, .assertion .statusEquals, ?_⟩
    · rw [Statement.content, hr.integer (by simp) hc]
      rfl
    · rintro _ (⟨⟨⟩⟩ | ⟨⟨⟩⟩)
      rfl
  | @statusInRange expect status within min range max semicolon he ht hw hm hg hx hs =>
    refine ⟨.inr (.statusInRange (decimal min) (decimal max)), ?_, .assertion .statusInRange, ?_⟩
    · rw [Statement.content, hr.integer (by simp) hm, hr.integer (by simp) hx]
      rfl
    · rintro _ (⟨⟨⟩⟩ | ⟨⟨⟩⟩)
      rfl
  | @bodyContains expect body contains text semicolon he hb hc ht hs =>
    refine ⟨.inr (.bodyContains (inner text)), ?_, .assertion .bodyContains, ?_⟩
    · rw [Statement.content, unquoted_eq_inner]
      rfl
    · rintro _ (⟨⟨⟩⟩ | ⟨⟨⟩⟩)
      rfl
  | @headerEquals expect header name equals value semicolon he hh hn hq hv hs =>
    refine ⟨.inr (.headerEquals (inner name) (inner value)), ?_, .assertion .headerEquals, ?_⟩
    · rw [Statement.content, unquoted_eq_inner, unquoted_eq_inner]
      rfl
    · rintro _ (⟨⟨⟩⟩ | ⟨⟨⟩⟩)
      rfl

/-- Items that evaluate one by one evaluate as a list. -/
theorem listed_evaluates {α β : Type} {Written : α → List Token → Tree → Prop}
    {Denotes : Tree → β → Prop} {read : α → Except UnreadableToken β}
    {items : List α} {tokens : List Token} {trees : List Tree}
    (h : Listed Written items tokens trees) (hr : Readable tokens)
    (single : ∀ item tokens tree, Written item tokens tree → Readable tokens →
      Evaluates Denotes tree (read item)) :
    ∃ values, items.mapM read = .ok values ∧ List.Forall₂ Denotes trees values ∧
      ∀ others, List.Forall₂ Denotes trees others → others = values := by
  induction h with
  | nil =>
    refine ⟨[], rfl, .nil, ?_⟩
    rintro _ ⟨⟩
    rfl
  | cons hw _ ih =>
    obtain ⟨value, hv, hd, unique⟩ := single _ _ _ hw (hr.of_subset (List.subset_append_left ..))
    obtain ⟨values, hvs, hds, uniques⟩ := ih (hr.of_subset (List.subset_append_right ..))
    refine ⟨value :: values, ?_, .cons hd hds, ?_⟩
    · rw [List.mapM_cons, hv, hvs]
      rfl
    · rintro _ (_ | ⟨ho, hos⟩)
      rw [unique _ ho, uniques _ hos]

theorem block_evaluates {block : Block} {tokens : List Token} {tree : Tree}
    (h : BlockTree block tokens tree) (hr : Readable tokens) :
    Evaluates DenotesTest tree block.test := by
  cases h with
  | @mk test name openBrace closeBrace statements body trees ht hn ho hl hc =>
    have inside : body ⊆ test :: name :: openBrace :: body ++ [closeBrace] := by
      intro token hm
      simp [hm]
    obtain ⟨contents, hv, hd, unique⟩ :=
      listed_evaluates hl (hr.of_subset inside) fun _ _ _ => statement_evaluates
    refine ⟨⟨name.text, _, _⟩, ?_, .mk (denotesBody_iff.2 ⟨contents, hd, rfl, rfl⟩), ?_⟩
    · rw [Block.test, hv]
      rfl
    · rintro ⟨_, _, _⟩ hother
      obtain ⟨rfl, hb⟩ := denotesTest_iff.1 hother
      obtain ⟨others, hds, rfl, rfl⟩ := denotesBody_iff.1 hb
      rw [unique others hds]

theorem program_evaluates {blocks : List Block} {tokens : List Token} {trees : List Tree}
    (h : Listed BlockTree blocks tokens trees) (hr : Readable tokens) :
    Evaluates DenotesProgram (.node .start trees) (Program.ofBlocks blocks) := by
  obtain ⟨tests, hv, hd, unique⟩ := listed_evaluates h hr fun _ _ _ => block_evaluates
  refine ⟨⟨tests⟩, ?_, .mk hd, ?_⟩
  · rw [Program.ofBlocks, hv]
    rfl
  · rintro _ ⟨hother⟩
    rw [unique _ hother]

/-! ## The tree of a token list -/

/-- The tokens of a list before its first end token. -/
def beforeEnd (tokens : List Token) : List Token :=
  tokens.takeWhile (·.kind != .eof)

/-- The token that ends a list: its first end token, or one right after its last token. -/
def endToken (tokens : List Token) : Token :=
  (tokens.find? (·.kind == .eof)).getD (.endOfInput (impliedEnd (beforeEnd tokens)))

theorem parseTokens_eq (tokens : List Token) :
    parseTokens tokens =
      readBlocks (State.initial.feed (beforeEnd tokens) >>= (·.finish (endToken tokens))) :=
  rfl

theorem finish_of_final {state : State} {last : Token} (h : state.place = .top) :
    state.finish last = .ok state.blocks := by
  rw [State.finish, if_pos (by rw [State.isFinal, h]; rfl)]

theorem finish_of_not_final {state : State} {last : Token} (h : state.place ≠ .top) :
    state.finish last = .error ⟨last, state.expected⟩ := by
  rw [State.finish, if_neg (by simpa [State.isFinal] using h)]

theorem readBlocks_ok_iff {result : Except SyntaxFault (List Block)} {program : Program} :
    readBlocks result = .ok program ↔
      ∃ blocks, result = .ok blocks ∧ Program.ofBlocks blocks = .ok program := by
  cases result with
  | error fault => simp [readBlocks]
  | ok blocks =>
    rw [readBlocks]
    cases read : Program.ofBlocks blocks <;> simp [Except.mapError, read]

theorem finish_ok_iff {state : State} {last : Token} {blocks : List Block} :
    state.finish last = .ok blocks ↔ state = ⟨blocks, .top⟩ := by
  obtain ⟨found, place⟩ := state
  by_cases final : place = .top
  · subst final
    rw [finish_of_final rfl]
    simp
  · rw [finish_of_not_final final]
    simp [final]

theorem parseTokens_of_listed {tokens : List Token} {blocks : List Block} {trees : List Tree}
    (h : Listed BlockTree blocks (beforeEnd tokens) trees) :
    parseTokens tokens = (Program.ofBlocks blocks).mapError .value := by
  have read : State.initial.feed (beforeEnd tokens) = .ok ⟨blocks, .top⟩ :=
    feed_initial_iff.2 ⟨trees, h⟩
  rw [parseTokens_eq, read]
  rfl

/-- The ways to a syntax fault: a token that cannot follow, or an end that comes too early. -/
theorem parseTokens_grammar_iff {tokens : List Token} {fault : SyntaxFault} :
    parseTokens tokens = .error (.grammar fault) ↔
      State.initial.feed (beforeEnd tokens) = .error fault ∨
        ∃ state, State.initial.feed (beforeEnd tokens) = .ok state ∧ state.place ≠ .top ∧
          fault = ⟨endToken tokens, state.expected⟩ := by
  rw [parseTokens_eq]
  cases hf : State.initial.feed (beforeEnd tokens) with
  | error found =>
    change Except.error (ParseFailure.grammar found) = _ ↔ _
    simp
  | ok state =>
    change readBlocks (state.finish (endToken tokens)) = _ ↔ _
    by_cases final : state.place = .top
    · rw [finish_of_final final, readBlocks]
      cases Program.ofBlocks state.blocks <;> simp [Except.mapError, final]
    · rw [finish_of_not_final final, readBlocks]
      simp only [Except.error.injEq, ParseFailure.grammar.injEq, reduceCtorEq, Except.ok.injEq,
        false_or, exists_eq_left']
      exact ⟨fun h => ⟨final, h.symm⟩, fun h => h.2.symm⟩

theorem parseTokens_of_not_sentence {tokens : List Token}
    (h : ¬ Sentence ((beforeEnd tokens).map Token.kind)) :
    ∃ fault, parseTokens tokens = .error (.grammar fault) := by
  rw [sentence_iff_feed] at h
  cases hf : State.initial.feed (beforeEnd tokens) with
  | error fault => exact ⟨fault, parseTokens_grammar_iff.2 (.inl hf)⟩
  | ok state =>
    have early : state.place ≠ .top := by
      intro final
      apply h
      refine ⟨state.blocks, ?_⟩
      rw [hf, ← final]
    exact ⟨_, parseTokens_grammar_iff.2 (.inr ⟨state, hf, early, rfl⟩)⟩

/-- **Parsing follows the grammar.** A readable token list has a tree exactly if the kinds before its
end form a script; the tree is then the one that a derivation of these tokens stands for. All other
lists are syntax faults. -/
theorem parseTokens_iff_derivation (tokens : List Token) (hr : Readable tokens) :
    ((∃ program, parseTokens tokens = .ok program) ↔
      Sentence ((beforeEnd tokens).map Token.kind)) ∧
    (∀ program, parseTokens tokens = .ok program ↔
      ∃ tree, Derives [.one .start] (beforeEnd tokens) [tree] ∧ DenotesProgram tree program) ∧
    (¬ Sentence ((beforeEnd tokens).map Token.kind) →
      ∃ fault, parseTokens tokens = .error (.grammar fault)) := by
  have readable : Readable (beforeEnd tokens) := hr.of_subset (List.takeWhile_subset _)
  have derived : ∀ tree, Derives [.one .start] (beforeEnd tokens) [tree] →
      ∃ program, parseTokens tokens = .ok program ∧ DenotesProgram tree program ∧
        ∀ other, DenotesProgram tree other → other = program := by
    intro tree hd
    obtain ⟨blocks, trees, rfl, hl⟩ := derives_start_iff.1 hd
    obtain ⟨program, hv, denotes, unique⟩ := program_evaluates hl readable
    refine ⟨program, ?_, denotes, unique⟩
    rw [parseTokens_of_listed hl, hv]
    rfl
  have accepted : ∀ program, parseTokens tokens = .ok program →
      Sentence ((beforeEnd tokens).map Token.kind) := by
    intro program hp
    by_contra refused
    obtain ⟨fault, hf⟩ := parseTokens_of_not_sentence refused
    rw [hp] at hf
    cases hf
  refine ⟨⟨?_, ?_⟩, ?_, parseTokens_of_not_sentence⟩
  · rintro ⟨program, hp⟩
    exact accepted program hp
  · intro sentence
    obtain ⟨tree, hd⟩ := sentence_iff.1 sentence
    obtain ⟨program, hp, -⟩ := derived tree hd
    exact ⟨program, hp⟩
  · intro program
    constructor
    · intro hp
      obtain ⟨tree, hd⟩ := sentence_iff.1 (accepted program hp)
      obtain ⟨found, hfound, denotes, -⟩ := derived tree hd
      obtain rfl := Except.ok.inj (hp.symm.trans hfound)
      exact ⟨tree, hd, denotes⟩
    · rintro ⟨tree, hd, denotes⟩
      obtain ⟨found, hfound, -, unique⟩ := derived tree hd
      rw [unique program denotes]
      exact hfound

/-- A test whose expectation precedes its request; its code has leading zeros, and a token stands
behind the end. -/
theorem derivation_of_expectation_first :
    ∃ tree,
      Derives [.one .start]
        [⟨.keyword .test, "test", ⟨1, 1⟩⟩, ⟨.identifier, "A", ⟨1, 6⟩⟩,
          ⟨.mark .openBrace, "\x7b", ⟨1, 8⟩⟩, ⟨.keyword .expect, "expect", ⟨2, 1⟩⟩,
          ⟨.keyword .status, "status", ⟨2, 8⟩⟩, ⟨.mark .equals, "=", ⟨2, 15⟩⟩,
          ⟨.integer, "007", ⟨2, 17⟩⟩, ⟨.mark .semicolon, ";", ⟨2, 20⟩⟩,
          ⟨.method .get, "GET", ⟨3, 1⟩⟩, ⟨.string, "\"/x\"", ⟨3, 5⟩⟩,
          ⟨.mark .semicolon, ";", ⟨3, 9⟩⟩, ⟨.mark .closeBrace, "\x7d", ⟨4, 1⟩⟩] [tree] ∧
      DenotesProgram tree ⟨[⟨"A", [⟨.get, "/x"⟩], [.statusEquals 7]⟩]⟩ :=
  ((parseTokens_iff_derivation
      [⟨.keyword .test, "test", ⟨1, 1⟩⟩, ⟨.identifier, "A", ⟨1, 6⟩⟩,
        ⟨.mark .openBrace, "\x7b", ⟨1, 8⟩⟩, ⟨.keyword .expect, "expect", ⟨2, 1⟩⟩,
        ⟨.keyword .status, "status", ⟨2, 8⟩⟩, ⟨.mark .equals, "=", ⟨2, 15⟩⟩,
        ⟨.integer, "007", ⟨2, 17⟩⟩, ⟨.mark .semicolon, ";", ⟨2, 20⟩⟩,
        ⟨.method .get, "GET", ⟨3, 1⟩⟩, ⟨.string, "\"/x\"", ⟨3, 5⟩⟩,
        ⟨.mark .semicolon, ";", ⟨3, 9⟩⟩, ⟨.mark .closeBrace, "\x7d", ⟨4, 1⟩⟩,
        ⟨.eof, "", ⟨4, 2⟩⟩, ⟨.identifier, "B", ⟨5, 1⟩⟩]
      ⟨by simp; decide, by decide⟩).2.1 _).1 (by rfl)

/-! ## The tree of a text -/

/-- The ways to a tree: the whole text is lexed, its tokens are those of a list of blocks, and the
blocks can be read. -/
theorem parse_ok_iff {source : String} {program : Program} :
    parse source = .ok program ↔ ∃ tokens position blocks trees,
      Stream.ofText source = ⟨tokens, .eof position⟩ ∧ Listed BlockTree blocks tokens trees ∧
        Program.ofBlocks blocks = .ok program := by
  constructor
  · intro h
    rw [parse, Stream.parse] at h
    split at h
    · cases h
    · cases h
    · rename_i state position fed ending
      obtain ⟨blocks, finished, read⟩ := readBlocks_ok_iff.1 h
      rw [finish_ok_iff.1 finished] at fed
      obtain ⟨trees, listed⟩ := feed_initial_iff.1 fed
      exact ⟨_, position, blocks, trees, by rw [← ending], listed, read⟩
  · rintro ⟨tokens, position, blocks, trees, stream, listed, read⟩
    have fed := feed_initial_iff.2 ⟨trees, listed⟩
    rw [parse, stream, Stream.parse]
    dsimp only
    rw [fed]
    exact readBlocks_ok_iff.2 ⟨blocks, finish_ok_iff.2 rfl, read⟩

end HttpSuite.Grammar
