import HttpSuite.Program.Statement
import Mathlib.Data.List.Forall2

/-!
# Derivations

The grammar of test scripts as data: nonterminals, their alternatives as sequences of symbols, and
the derivation trees of token lists. Trees keep every token and every rule that was applied, so a
program can be read off a tree without regard to how the tree was found.

* `Derives` — a sequence of symbols derives a token list by a list of trees;
* `Sentence`, `Viable` — the kinds of a whole script, and of what can still become one;
* `DenotesProgram` — the program that a derivation tree stands for;
* `derives_start_iff` — the trees of a script are those of its blocks, written out.
-/

namespace HttpSuite.Grammar

/-- The nonterminals of the grammar. -/
inductive Nonterminal
  | start
  | test
  | statement
  | request
  | method
  | assertion
  | assertionBody
  | statusEquals
  | statusInRange
  | bodyContains
  | headerEquals
  deriving DecidableEq, Repr

/-- What an alternative is made of. -/
inductive Symbol
  | token (kind : Kind)
  | one (nonterminal : Nonterminal)
  /-- Any number of times, also none. -/
  | many (nonterminal : Nonterminal)
  deriving DecidableEq, Repr

/-- The rules of the grammar. -/
def Nonterminal.alternatives : Nonterminal → List (List Symbol)
  | .start => [[.many .test]]
  | .test =>
    [[.token (.keyword .test), .token .identifier, .token (.mark .openBrace), .many .statement,
      .token (.mark .closeBrace)]]
  | .statement => [[.one .request], [.one .assertion]]
  | .request => [[.one .method, .token .string, .token (.mark .semicolon)]]
  | .method =>
    [[.token (.method .get)], [.token (.method .post)], [.token (.method .put)],
      [.token (.method .delete)]]
  | .assertion => [[.token (.keyword .expect), .one .assertionBody, .token (.mark .semicolon)]]
  | .assertionBody =>
    [[.one .statusEquals], [.one .statusInRange], [.one .bodyContains], [.one .headerEquals]]
  | .statusEquals => [[.token (.keyword .status), .token (.mark .equals), .token .integer]]
  | .statusInRange =>
    [[.token (.keyword .status), .token (.keyword .within), .token .integer,
      .token (.mark .range), .token .integer]]
  | .bodyContains => [[.token (.keyword .body), .token (.keyword .contains), .token .string]]
  | .headerEquals =>
    [[.token (.keyword .header), .token .string, .token (.mark .equals), .token .string]]

/-- A derivation tree: tokens at the leaves, applied rules above them. -/
inductive Tree
  | leaf (token : Token)
  | node (nonterminal : Nonterminal) (children : List Tree)

/-- A sequence of symbols derives a token list; the trees are those of its symbols from left to right,
with one for each time that a repeated symbol was taken. -/
inductive Derives : List Symbol → List Token → List Tree → Prop
  | nil : Derives [] [] []
  | token {kind symbols token tokens trees} :
      token.kind = kind → Derives symbols tokens trees →
      Derives (.token kind :: symbols) (token :: tokens) (.leaf token :: trees)
  | one {nonterminal alternative symbols front back children trees} :
      alternative ∈ nonterminal.alternatives → Derives alternative front children →
      Derives symbols back trees →
      Derives (.one nonterminal :: symbols) (front ++ back) (.node nonterminal children :: trees)
  | stop {nonterminal symbols tokens trees} :
      Derives symbols tokens trees → Derives (.many nonterminal :: symbols) tokens trees
  | again {nonterminal symbols front back tree trees} :
      Derives [.one nonterminal] front [tree] →
      Derives (.many nonterminal :: symbols) back trees →
      Derives (.many nonterminal :: symbols) (front ++ back) (tree :: trees)

/-- The kinds of a whole script. -/
def Sentence (kinds : List Kind) : Prop :=
  ∃ tokens tree, tokens.map Token.kind = kinds ∧ Derives [.one .start] tokens [tree]

/-- The kinds that begin some script. -/
def Viable (kinds : List Kind) : Prop :=
  ∃ rest, Sentence (kinds ++ rest)

/-! ## What a tree stands for -/

/-- The decimal value of the text of a token. -/
def decimal (token : Token) : Int :=
  (Nat.ofDigitChars 10 token.text.toList 0 : Nat)

/-- The text of a token without its first and last character. -/
def inner (token : Token) : String :=
  String.ofList token.text.toList.tail.dropLast

/-- The request that a tree stands for: the verb is the one that the text of its token names. -/
inductive DenotesRequest : Tree → Request → Prop
  | mk {method path semicolon : Token} {verb : Method} :
      verb.text = method.text →
      DenotesRequest
        (.node .request [.node .method [.leaf method], .leaf path, .leaf semicolon])
        ⟨verb, inner path⟩

/-- The assertion that a tree stands for. -/
inductive DenotesAssertion : Tree → Assertion → Prop
  | statusEquals {expect status equals code semicolon : Token} :
      DenotesAssertion
        (.node .assertion [.leaf expect,
          .node .assertionBody [.node .statusEquals [.leaf status, .leaf equals, .leaf code]],
          .leaf semicolon])
        (.statusEquals (decimal code))
  | statusInRange {expect status within min range max semicolon : Token} :
      DenotesAssertion
        (.node .assertion [.leaf expect,
          .node .assertionBody [.node .statusInRange
            [.leaf status, .leaf within, .leaf min, .leaf range, .leaf max]],
          .leaf semicolon])
        (.statusInRange (decimal min) (decimal max))
  | bodyContains {expect body contains text semicolon : Token} :
      DenotesAssertion
        (.node .assertion [.leaf expect,
          .node .assertionBody [.node .bodyContains [.leaf body, .leaf contains, .leaf text]],
          .leaf semicolon])
        (.bodyContains (inner text))
  | headerEquals {expect header name equals value semicolon : Token} :
      DenotesAssertion
        (.node .assertion [.leaf expect,
          .node .assertionBody [.node .headerEquals
            [.leaf header, .leaf name, .leaf equals, .leaf value]],
          .leaf semicolon])
        (.headerEquals (inner name) (inner value))

/-- The requests and the assertions among the statements of a body, each in source order. -/
inductive DenotesBody : List Tree → List Request → List Assertion → Prop
  | nil : DenotesBody [] [] []
  | request {tree trees request requests assertions} :
      DenotesRequest tree request → DenotesBody trees requests assertions →
      DenotesBody (.node .statement [tree] :: trees) (request :: requests) assertions
  | assertion {tree trees requests assertion assertions} :
      DenotesAssertion tree assertion → DenotesBody trees requests assertions →
      DenotesBody (.node .statement [tree] :: trees) requests (assertion :: assertions)

/-- The test that a tree stands for, named by the text of its identifier. -/
inductive DenotesTest : Tree → TestBlock → Prop
  | mk {test name openBrace closeBrace : Token} {body requests assertions} :
      DenotesBody body requests assertions →
      DenotesTest
        (.node .test
          (.leaf test :: .leaf name :: .leaf openBrace :: body ++ [.leaf closeBrace]))
        ⟨name.text, requests, assertions⟩

/-- The program that a tree stands for: one test for each test tree, in order. -/
inductive DenotesProgram : Tree → Program → Prop
  | mk {trees tests} :
      List.Forall₂ DenotesTest trees tests → DenotesProgram (.node .start trees) ⟨tests⟩

/-! ## Inversion, symbol by symbol -/

section Inversion

variable {kind : Kind} {nonterminal : Nonterminal} {symbols : List Symbol} {tokens : List Token}
  {trees : List Tree}

@[simp] theorem derives_nil_iff : Derives [] tokens trees ↔ tokens = [] ∧ trees = [] := by
  constructor
  · intro h
    cases h
    exact ⟨rfl, rfl⟩
  · rintro ⟨rfl, rfl⟩
    exact .nil

@[simp] theorem derives_token_iff :
    Derives (.token kind :: symbols) tokens trees ↔
      ∃ token rest restTrees, tokens = token :: rest ∧ trees = .leaf token :: restTrees ∧
        token.kind = kind ∧ Derives symbols rest restTrees := by
  constructor
  · intro h
    cases h with
    | token hk ht => exact ⟨_, _, _, rfl, rfl, hk, ht⟩
  · rintro ⟨token, rest, restTrees, rfl, rfl, hk, ht⟩
    exact .token hk ht

theorem derives_one_iff :
    Derives (.one nonterminal :: symbols) tokens trees ↔
      ∃ alternative ∈ nonterminal.alternatives, ∃ front back children restTrees,
        tokens = front ++ back ∧ trees = .node nonterminal children :: restTrees ∧
        Derives alternative front children ∧ Derives symbols back restTrees := by
  constructor
  · intro h
    cases h with
    | one ha hf hb => exact ⟨_, ha, _, _, _, _, rfl, rfl, hf, hb⟩
  · rintro ⟨alternative, ha, front, back, children, restTrees, rfl, rfl, hf, hb⟩
    exact .one ha hf hb

theorem derives_single_iff :
    Derives [.one nonterminal] tokens trees ↔
      ∃ alternative ∈ nonterminal.alternatives, ∃ children,
        trees = [.node nonterminal children] ∧ Derives alternative tokens children := by
  rw [derives_one_iff]
  constructor
  · rintro ⟨alternative, ha, front, back, children, restTrees, rfl, rfl, hf, hb⟩
    obtain ⟨rfl, rfl⟩ := derives_nil_iff.1 hb
    rw [List.append_nil]
    exact ⟨alternative, ha, children, rfl, hf⟩
  · rintro ⟨alternative, ha, children, rfl, hf⟩
    exact ⟨alternative, ha, tokens, [], children, [], by simp, rfl, hf, .nil⟩

/-- The first symbol and the others derive separate parts. -/
theorem derives_one_cons_iff :
    Derives (.one nonterminal :: symbols) tokens trees ↔
      ∃ front back tree restTrees, tokens = front ++ back ∧ trees = tree :: restTrees ∧
        Derives [.one nonterminal] front [tree] ∧ Derives symbols back restTrees := by
  constructor
  · intro h
    obtain ⟨alternative, ha, front, back, children, restTrees, rfl, rfl, hf, hb⟩ :=
      derives_one_iff.1 h
    exact ⟨front, back, _, restTrees, rfl, rfl,
      derives_single_iff.2 ⟨alternative, ha, children, rfl, hf⟩, hb⟩
  · rintro ⟨front, back, tree, restTrees, rfl, rfl, hf, hb⟩
    obtain ⟨alternative, ha, children, ⟨rfl⟩, hc⟩ := derives_single_iff.1 hf
    exact .one ha hc hb

end Inversion

/-! ## Statements, written out -/

/-- A statement with its tokens and its tree. -/
inductive StatementTree : Statement → List Token → Tree → Prop
  | request {method path semicolon : Token} {verb : Method} :
      method.kind = .method verb → path.kind = .string → semicolon.kind = .mark .semicolon →
      StatementTree (.request method path) [method, path, semicolon]
        (.node .statement
          [.node .request [.node .method [.leaf method], .leaf path, .leaf semicolon]])
  | statusEquals {expect status equals code semicolon : Token} :
      expect.kind = .keyword .expect → status.kind = .keyword .status →
      equals.kind = .mark .equals → code.kind = .integer → semicolon.kind = .mark .semicolon →
      StatementTree (.statusEquals code) [expect, status, equals, code, semicolon]
        (.node .statement [.node .assertion [.leaf expect,
          .node .assertionBody [.node .statusEquals [.leaf status, .leaf equals, .leaf code]],
          .leaf semicolon]])
  | statusInRange {expect status within min range max semicolon : Token} :
      expect.kind = .keyword .expect → status.kind = .keyword .status →
      within.kind = .keyword .within → min.kind = .integer → range.kind = .mark .range →
      max.kind = .integer → semicolon.kind = .mark .semicolon →
      StatementTree (.statusInRange min max) [expect, status, within, min, range, max, semicolon]
        (.node .statement [.node .assertion [.leaf expect,
          .node .assertionBody [.node .statusInRange
            [.leaf status, .leaf within, .leaf min, .leaf range, .leaf max]],
          .leaf semicolon]])
  | bodyContains {expect body contains text semicolon : Token} :
      expect.kind = .keyword .expect → body.kind = .keyword .body →
      contains.kind = .keyword .contains → text.kind = .string →
      semicolon.kind = .mark .semicolon →
      StatementTree (.bodyContains text) [expect, body, contains, text, semicolon]
        (.node .statement [.node .assertion [.leaf expect,
          .node .assertionBody [.node .bodyContains [.leaf body, .leaf contains, .leaf text]],
          .leaf semicolon]])
  | headerEquals {expect header name equals value semicolon : Token} :
      expect.kind = .keyword .expect → header.kind = .keyword .header → name.kind = .string →
      equals.kind = .mark .equals → value.kind = .string → semicolon.kind = .mark .semicolon →
      StatementTree (.headerEquals name value) [expect, header, name, equals, value, semicolon]
        (.node .statement [.node .assertion [.leaf expect,
          .node .assertionBody [.node .headerEquals
            [.leaf header, .leaf name, .leaf equals, .leaf value]],
          .leaf semicolon]])

section Statements

variable {tokens : List Token} {trees : List Tree} {tree : Tree}

theorem derives_method_iff :
    Derives [.one .method] tokens trees ↔
      ∃ method verb, method.kind = .method verb ∧ tokens = [method] ∧
        trees = [.node .method [.leaf method]] := by
  simp only [derives_single_iff, Nonterminal.alternatives]
  constructor
  · rintro ⟨alternative, ha, children, rfl, hd⟩
    simp only [List.mem_cons, List.not_mem_nil, or_false] at ha
    rcases ha with rfl | rfl | rfl | rfl <;>
      (simp only [derives_token_iff, derives_nil_iff] at hd
       obtain ⟨method, _, _, rfl, rfl, hk, rfl, rfl⟩ := hd
       exact ⟨method, _, hk, rfl, rfl⟩)
  · rintro ⟨method, verb, hk, rfl, rfl⟩
    exact ⟨[.token (.method verb)], by cases verb <;> simp, [.leaf method], rfl,
      .token hk .nil⟩

theorem derives_request_iff :
    Derives [.one .request] tokens trees ↔
      ∃ method verb path semicolon, method.kind = .method verb ∧ path.kind = .string ∧
        semicolon.kind = .mark .semicolon ∧ tokens = [method, path, semicolon] ∧
        trees = [.node .request [.node .method [.leaf method], .leaf path, .leaf semicolon]] := by
  simp only [derives_single_iff, Nonterminal.alternatives, List.mem_singleton, exists_eq_left]
  constructor
  · rintro ⟨children, rfl, hd⟩
    obtain ⟨front, back, child, rest, rfl, rfl, hm, hr⟩ := derives_one_cons_iff.1 hd
    obtain ⟨method, verb, hk, rfl, ⟨rfl⟩⟩ := derives_method_iff.1 hm
    simp only [derives_token_iff, derives_nil_iff] at hr
    obtain ⟨path, _, _, rfl, rfl, hp, semicolon, _, _, rfl, rfl, hs, rfl, rfl⟩ := hr
    exact ⟨method, verb, path, semicolon, hk, hp, hs, rfl, rfl⟩
  · rintro ⟨method, verb, path, semicolon, hk, hp, hs, rfl, rfl⟩
    have hm : Derives [.one .method] [method] [.node .method [.leaf method]] :=
      derives_method_iff.2 ⟨method, verb, hk, rfl, rfl⟩
    exact ⟨_, rfl, derives_one_cons_iff.2
      ⟨[method], [path, semicolon], _, _, rfl, rfl, hm, .token hp (.token hs .nil)⟩⟩

/-- An assertion is an expectation around the derivation of one of the four bodies. -/
theorem derives_assertion_iff :
    Derives [.one .assertion] tokens trees ↔
      ∃ nonterminal alternative expect front children semicolon,
        [.one nonterminal] ∈ Nonterminal.assertionBody.alternatives ∧
        alternative ∈ nonterminal.alternatives ∧ expect.kind = .keyword .expect ∧
        Derives alternative front children ∧ semicolon.kind = .mark .semicolon ∧
        tokens = expect :: front ++ [semicolon] ∧
        trees = [.node .assertion [.leaf expect, .node .assertionBody [.node nonterminal children],
          .leaf semicolon]] := by
  constructor
  · intro h
    obtain ⟨_, ha, _, rfl, hd⟩ := derives_single_iff.1 h
    obtain rfl := List.mem_singleton.1 ha
    obtain ⟨expect, _, _, rfl, rfl, he, hd⟩ := derives_token_iff.1 hd
    obtain ⟨body, hb, front, _, inside, _, rfl, rfl, hf, hd⟩ := derives_one_iff.1 hd
    obtain ⟨semicolon, _, _, rfl, rfl, hs, hd⟩ := derives_token_iff.1 hd
    obtain ⟨rfl, rfl⟩ := derives_nil_iff.1 hd
    -- every alternative of a body is a single nonterminal
    obtain ⟨nonterminal, rfl⟩ : ∃ nonterminal, body = [.one nonterminal] := by
      simp only [Nonterminal.alternatives, List.mem_cons, List.not_mem_nil, or_false] at hb
      rcases hb with rfl | rfl | rfl | rfl <;> exact ⟨_, rfl⟩
    obtain ⟨alternative, hn, children, rfl, hc⟩ := derives_single_iff.1 hf
    exact ⟨nonterminal, alternative, expect, front, children, semicolon, hb, hn, he, hc, hs, rfl, rfl⟩
  · rintro ⟨nonterminal, alternative, expect, front, children, semicolon, hb, hn, he, hc, hs,
      rfl, rfl⟩
    have inside : Derives [.one nonterminal] front [.node nonterminal children] :=
      derives_single_iff.2 ⟨alternative, hn, children, rfl, hc⟩
    have body : Derives [.one .assertionBody, .token (.mark .semicolon)] (front ++ [semicolon])
        [.node .assertionBody [.node nonterminal children], .leaf semicolon] :=
      .one hb inside (.token hs .nil)
    exact derives_single_iff.2 ⟨_, List.mem_singleton.2 rfl, _, rfl, .token he body⟩

/-- The derivations of a statement are the five written out above. -/
theorem derives_statement_iff :
    Derives [.one .statement] tokens [tree] ↔ ∃ statement, StatementTree statement tokens tree := by
  constructor
  · intro h
    obtain ⟨_, ha, _, ⟨rfl⟩, hd⟩ := derives_single_iff.1 h
    simp only [Nonterminal.alternatives, List.mem_cons, List.not_mem_nil, or_false] at ha
    rcases ha with rfl | rfl
    · obtain ⟨method, verb, path, semicolon, hk, hp, hs, rfl, rfl⟩ := derives_request_iff.1 hd
      exact ⟨_, .request hk hp hs⟩
    · obtain ⟨nonterminal, alternative, expect, front, children, semicolon, hb, hn, he, hc, hs,
        rfl, rfl⟩ := derives_assertion_iff.1 hd
      simp only [Nonterminal.alternatives, List.mem_cons, List.cons.injEq, Symbol.one.injEq,
        and_true, List.not_mem_nil, or_false] at hb
      rcases hb with rfl | rfl | rfl | rfl <;> obtain rfl := List.mem_singleton.1 hn <;>
        simp only [derives_token_iff, derives_nil_iff] at hc
      · obtain ⟨status, _, _, rfl, rfl, ht, equals, _, _, rfl, rfl, hq, code, _, _, rfl, rfl, hc,
          rfl, rfl⟩ := hc
        exact ⟨_, .statusEquals he ht hq hc hs⟩
      · obtain ⟨status, _, _, rfl, rfl, ht, within, _, _, rfl, rfl, hw, min, _, _, rfl, rfl, hm,
          range, _, _, rfl, rfl, hr, max, _, _, rfl, rfl, hx, rfl, rfl⟩ := hc
        exact ⟨_, .statusInRange he ht hw hm hr hx hs⟩
      · obtain ⟨body, _, _, rfl, rfl, hb, contains, _, _, rfl, rfl, hc, text, _, _, rfl, rfl, ht,
          rfl, rfl⟩ := hc
        exact ⟨_, .bodyContains he hb hc ht hs⟩
      · obtain ⟨header, _, _, rfl, rfl, hh, name, _, _, rfl, rfl, hn, equals, _, _, rfl, rfl, hq,
          value, _, _, rfl, rfl, hv, rfl, rfl⟩ := hc
        exact ⟨_, .headerEquals he hh hn hq hv hs⟩
  · rintro ⟨statement, h⟩
    have assertion : ∀ {nonterminal alternative expect front children semicolon},
        [.one nonterminal] ∈ Nonterminal.assertionBody.alternatives →
        alternative ∈ nonterminal.alternatives → expect.kind = .keyword .expect →
        Derives alternative front children → semicolon.kind = .mark .semicolon →
        Derives [.one .statement] (expect :: front ++ [semicolon])
          [.node .statement [.node .assertion [.leaf expect,
            .node .assertionBody [.node nonterminal children], .leaf semicolon]]] := by
      intro _ _ _ _ _ _ hb hn he hc hs
      exact derives_single_iff.2 ⟨[.one .assertion], by simp [Nonterminal.alternatives], _, rfl,
        derives_assertion_iff.2 ⟨_, _, _, _, _, _, hb, hn, he, hc, hs, rfl, rfl⟩⟩
    cases h with
    | request hk hp hs =>
      exact derives_single_iff.2 ⟨[.one .request], by simp [Nonterminal.alternatives], _, rfl,
        derives_request_iff.2 ⟨_, _, _, _, hk, hp, hs, rfl, rfl⟩⟩
    | statusEquals he ht hq hc hs =>
      exact assertion (by simp [Nonterminal.alternatives]) (List.mem_singleton.2 rfl) he
        (.token ht (.token hq (.token hc .nil))) hs
    | statusInRange he ht hw hm hr hx hs =>
      exact assertion (by simp [Nonterminal.alternatives]) (List.mem_singleton.2 rfl) he
        (.token ht (.token hw (.token hm (.token hr (.token hx .nil))))) hs
    | bodyContains he hb hc ht hs =>
      exact assertion (by simp [Nonterminal.alternatives]) (List.mem_singleton.2 rfl) he
        (.token hb (.token hc (.token ht .nil))) hs
    | headerEquals he hh hn hq hv hs =>
      exact assertion (by simp [Nonterminal.alternatives]) (List.mem_singleton.2 rfl) he
        (.token hh (.token hn (.token hq (.token hv .nil)))) hs

end Statements

/-! ## Bodies and scripts, written out -/

/-- Items written one after the other, each by its own tokens and its own tree. -/
inductive Listed {α : Type} (Written : α → List Token → Tree → Prop) :
    List α → List Token → List Tree → Prop
  | nil : Listed Written [] [] []
  | cons {item items front back tree trees} :
      Written item front tree → Listed Written items back trees →
      Listed Written (item :: items) (front ++ back) (tree :: trees)

section Repetition

variable {α : Type} {Written : α → List Token → Tree → Prop} {items : List α} {tokens : List Token}
  {trees : List Tree}

theorem Listed.snoc {item : α} {back : List Token} {tree : Tree}
    (h : Listed Written items tokens trees) (hi : Written item back tree) :
    Listed Written (items ++ [item]) (tokens ++ back) (trees ++ [tree]) := by
  induction h with
  | nil => simpa using Listed.cons hi .nil
  | cons hw _ ih =>
    rw [List.append_assoc]
    exact .cons hw ih

/-- A repeated nonterminal derives items written one after the other, if it derives single items
as they are written. -/
theorem derives_many_iff {nonterminal : Nonterminal} {symbols : List Symbol}
    (single : ∀ tokens tree,
      Derives [.one nonterminal] tokens [tree] ↔ ∃ item, Written item tokens tree) :
    Derives (.many nonterminal :: symbols) tokens trees ↔
      ∃ items front back frontTrees backTrees, tokens = front ++ back ∧
        trees = frontTrees ++ backTrees ∧ Listed Written items front frontTrees ∧
        Derives symbols back backTrees := by
  constructor
  · intro h
    generalize hs : Symbol.many nonterminal :: symbols = all at h
    induction h with
    | nil => cases hs
    | token => cases hs
    | one => cases hs
    | stop ht =>
      cases hs
      exact ⟨[], [], _, [], _, rfl, rfl, .nil, ht⟩
    | again hf _ _ ih =>
      cases hs
      obtain ⟨item, hi⟩ := (single _ _).1 hf
      obtain ⟨items, front, back, frontTrees, backTrees, rfl, rfl, hl, hb⟩ := ih rfl
      exact ⟨item :: items, _, back, _, backTrees, (List.append_assoc ..).symm, rfl,
        .cons hi hl, hb⟩
  · rintro ⟨items, front, back, frontTrees, backTrees, rfl, rfl, hl, hb⟩
    induction hl with
    | nil => exact .stop hb
    | cons hi _ ih =>
      rw [List.append_assoc]
      exact .again ((single _ _).2 ⟨_, hi⟩) ih

end Repetition

/-- A block with its tokens and its tree. -/
inductive BlockTree : Block → List Token → Tree → Prop
  | mk {test name openBrace closeBrace : Token} {statements body trees} :
      test.kind = .keyword .test → name.kind = .identifier → openBrace.kind = .mark .openBrace →
      Listed StatementTree statements body trees → closeBrace.kind = .mark .closeBrace →
      BlockTree ⟨name, statements⟩ (test :: name :: openBrace :: body ++ [closeBrace])
        (.node .test
          (.leaf test :: .leaf name :: .leaf openBrace :: trees ++ [.leaf closeBrace]))

theorem derives_test_iff {tokens : List Token} {tree : Tree} :
    Derives [.one .test] tokens [tree] ↔ ∃ block, BlockTree block tokens tree := by
  constructor
  · intro h
    obtain ⟨_, ha, _, ⟨rfl⟩, hd⟩ := derives_single_iff.1 h
    obtain rfl := List.mem_singleton.1 ha
    obtain ⟨test, _, _, rfl, rfl, ht, hd⟩ := derives_token_iff.1 hd
    obtain ⟨name, _, _, rfl, rfl, hn, hd⟩ := derives_token_iff.1 hd
    obtain ⟨openBrace, _, _, rfl, rfl, ho, hd⟩ := derives_token_iff.1 hd
    obtain ⟨statements, body, _, trees, _, rfl, rfl, hl, hd⟩ :=
      (derives_many_iff fun _ _ => derives_statement_iff).1 hd
    obtain ⟨closeBrace, _, _, rfl, rfl, hc, hd⟩ := derives_token_iff.1 hd
    obtain ⟨rfl, rfl⟩ := derives_nil_iff.1 hd
    exact ⟨⟨name, statements⟩, .mk ht hn ho hl hc⟩
  · rintro ⟨_, ⟨ht, hn, ho, hl, hc⟩⟩
    have body := (derives_many_iff fun _ _ => derives_statement_iff).2
      ⟨_, _, _, _, _, rfl, rfl, hl, .token hc .nil⟩
    exact derives_single_iff.2 ⟨_, List.mem_singleton.2 rfl, _, rfl,
      .token ht (.token hn (.token ho body))⟩

/-- The derivations of a script are lists of blocks. -/
theorem derives_start_iff {tokens : List Token} {tree : Tree} :
    Derives [.one .start] tokens [tree] ↔
      ∃ blocks trees, tree = .node .start trees ∧ Listed BlockTree blocks tokens trees := by
  constructor
  · intro h
    obtain ⟨_, ha, _, ⟨rfl⟩, hd⟩ := derives_single_iff.1 h
    obtain rfl := List.mem_singleton.1 ha
    obtain ⟨blocks, front, _, trees, _, rfl, rfl, hl, hd⟩ :=
      (derives_many_iff fun _ _ => derives_test_iff).1 hd
    obtain ⟨rfl, rfl⟩ := derives_nil_iff.1 hd
    rw [List.append_nil, List.append_nil]
    exact ⟨blocks, trees, rfl, hl⟩
  · rintro ⟨blocks, trees, rfl, hl⟩
    have script := (derives_many_iff fun _ _ => derives_test_iff).2
      ⟨_, _, _, _, _, rfl, rfl, hl, .nil⟩
    rw [List.append_nil, List.append_nil] at script
    exact derives_single_iff.2 ⟨_, List.mem_singleton.2 rfl, _, rfl, script⟩

end HttpSuite.Grammar
