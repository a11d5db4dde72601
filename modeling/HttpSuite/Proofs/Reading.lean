import HttpSuite.Program.Grammar
import HttpSuite.Proofs.Derivation

/-!
# Reading tokens

The reader of scripts accepts what the grammar derives, in both directions:

* **steps** — `Moves` and `Steps` say all that one token can do to a statement and to the reader
  (`progress_step_iff`, `state_step_iff`);
* **completeness** — a list of blocks is read through, block by block and statement by statement, as
  the blocks that it is written for (`feed_script`);
* **soundness** — `StateReads` relates a state to the tokens that lead to it; every step extends it
  by its token (`StateReads.step`), so every run does (`StateReads.feed`);
* **kinds decide** — a derivation carries over to any tokens of the same kinds (`Derives.relabel`),
  so a token list is read through exactly if its kinds form a script (`sentence_iff_feed`).
-/

namespace HttpSuite.Grammar

/-! ## Single steps -/

/-- The moves of a statement from one token to the next. -/
inductive Moves : Progress → Token → Progress → Prop
  | method {token verb} : token.kind = .method verb → Moves .ready token (.path token)
  | expect {token} : token.kind = .keyword .expect → Moves .ready token .expect
  | path {method token} :
      token.kind = .string → Moves (.path method) token (.complete (.request method token))
  | status {token} : token.kind = .keyword .status → Moves .expect token .status
  | body {token} : token.kind = .keyword .body → Moves .expect token .contains
  | header {token} : token.kind = .keyword .header → Moves .expect token .headerName
  | equals {token} : token.kind = .mark .equals → Moves .status token .code
  | within {token} : token.kind = .keyword .within → Moves .status token .low
  | code {token} : token.kind = .integer → Moves .code token (.complete (.statusEquals token))
  | low {token} : token.kind = .integer → Moves .low token (.range token)
  | range {min token} : token.kind = .mark .range → Moves (.range min) token (.high min)
  | high {min token} :
      token.kind = .integer → Moves (.high min) token (.complete (.statusInRange min token))
  | contains {token} : token.kind = .keyword .contains → Moves .contains token .bodyText
  | text {token} : token.kind = .string → Moves .bodyText token (.complete (.bodyContains token))
  | name {token} : token.kind = .string → Moves .headerName token (.headerEquals token)
  | headerEquals {name token} :
      token.kind = .mark .equals → Moves (.headerEquals name) token (.headerValue name)
  | value {name token} :
      token.kind = .string → Moves (.headerValue name) token (.complete (.headerEquals name token))

theorem progress_step_iff {progress next : Progress} {token : Token} :
    progress.step token = some next ↔ Moves progress token next := by
  constructor
  · intro h
    unfold Progress.step at h
    split at h <;> cases h <;> constructor <;> assumption
  · intro h
    cases h <;> simp [Progress.step, *]

/-- The steps of the reader: into a block, through a statement, past its end and out of the block. -/
inductive Steps : State → Token → State → Prop
  | test {blocks token} : token.kind = .keyword .test → Steps ⟨blocks, .top⟩ token ⟨blocks, .name⟩
  | name {blocks token} :
      token.kind = .identifier → Steps ⟨blocks, .name⟩ token ⟨blocks, .brace token⟩
  | openBrace {blocks name token} :
      token.kind = .mark .openBrace →
      Steps ⟨blocks, .brace name⟩ token ⟨blocks, .body name [] .ready⟩
  | closeBrace {blocks name statements token} :
      token.kind = .mark .closeBrace →
      Steps ⟨blocks, .body name statements .ready⟩ token
        ⟨blocks ++ [⟨name, statements⟩], .top⟩
  | semicolon {blocks name statements statement token} :
      token.kind = .mark .semicolon →
      Steps ⟨blocks, .body name statements (.complete statement)⟩ token
        ⟨blocks, .body name (statements ++ [statement]) .ready⟩
  | within {blocks name statements progress next token} :
      Moves progress token next →
      Steps ⟨blocks, .body name statements progress⟩ token ⟨blocks, .body name statements next⟩

theorem state_step_iff {state next : State} {token : Token} :
    state.step token = some next ↔ Steps state token next := by
  constructor
  · intro h
    obtain ⟨blocks, place⟩ := state
    unfold State.step at h
    split at h <;> rename_i place'
    · obtain rfl : place = .top := ‹_›
      cases h
      exact .test ‹_›
    · obtain rfl : place = .name := ‹_›
      cases h
      exact .name ‹_›
    · obtain rfl : place = .brace _ := ‹_›
      cases h
      exact .openBrace ‹_›
    · obtain rfl : place = .body _ _ .ready := ‹_›
      cases h
      exact .closeBrace ‹_›
    · obtain rfl : place = .body _ _ (.complete _) := ‹_›
      cases h
      exact .semicolon ‹_›
    · obtain rfl : place = .body _ _ _ := ‹_›
      obtain ⟨progress, hs, rfl⟩ := Option.map_eq_some_iff.1 h
      exact .within (progress_step_iff.1 hs)
    · cases h
  · intro h
    cases h with
    | within hm =>
      have step := progress_step_iff.2 hm
      cases hm <;> simp_all [State.step]
    | _ hk => simp [State.step, hk]

/-! ## Runs of the reader -/

section Feed

variable {state next : State} {token : Token} {front back : List Token}

theorem feed_cons_of_step (h : state.step token = some next) :
    state.feed (token :: back) = next.feed back := by
  rw [State.feed, h]

/-- A run goes on where an accepted part of it ended. -/
theorem feed_append (h : state.feed front = .ok next) :
    state.feed (front ++ back) = next.feed back := by
  induction front generalizing state with
  | nil =>
    obtain rfl := Except.ok.inj h
    rfl
  | cons token front ih =>
    rw [State.feed] at h
    split at h
    · rename_i middle step
      rw [List.cons_append, feed_cons_of_step step]
      exact ih h
    · cases h

end Feed

/-! ## Scripts are read through -/

section Completeness

variable {blocks : List Block} {name : Token} {statements : List Statement} {tokens : List Token}

/-- A statement is read as what it is written for. -/
theorem feed_statement {statement : Statement} {tree : Tree}
    (h : StatementTree statement tokens tree) :
    State.feed ⟨blocks, .body name statements .ready⟩ tokens =
      .ok ⟨blocks, .body name (statements ++ [statement]) .ready⟩ := by
  cases h with
  | request hk hp hs => simp [State.feed, State.step, Progress.step, hk, hp, hs]
  | statusEquals he ht hq hc hs => simp [State.feed, State.step, Progress.step, he, ht, hq, hc, hs]
  | statusInRange he ht hw hm hr hx hs =>
    simp [State.feed, State.step, Progress.step, he, ht, hw, hm, hr, hx, hs]
  | bodyContains he hb hc ht hs => simp [State.feed, State.step, Progress.step, he, hb, hc, ht, hs]
  | headerEquals he hh hn hq hv hs =>
    simp [State.feed, State.step, Progress.step, he, hh, hn, hq, hv, hs]

theorem feed_body {more : List Statement} {trees : List Tree}
    (h : Listed StatementTree more tokens trees) :
    State.feed ⟨blocks, .body name statements .ready⟩ tokens =
      .ok ⟨blocks, .body name (statements ++ more) .ready⟩ := by
  induction h generalizing statements with
  | nil => rw [List.append_nil]; rfl
  | cons hs _ ih =>
    rw [feed_append (feed_statement hs), ih, List.append_assoc]
    rfl

theorem feed_block {block : Block} {tree : Tree} (h : BlockTree block tokens tree) :
    State.feed ⟨blocks, .top⟩ tokens = .ok ⟨blocks ++ [block], .top⟩ := by
  cases h with
  | @mk test name openBrace closeBrace statements body trees ht hn ho hl hc =>
    have opened : State.feed ⟨blocks, .top⟩ [test, name, openBrace] =
        .ok ⟨blocks, .body name [] .ready⟩ := by
      simp [State.feed, State.step, ht, hn, ho]
    have closed : State.feed ⟨blocks, .body name statements .ready⟩ [closeBrace] =
        .ok ⟨blocks ++ [⟨name, statements⟩], .top⟩ := by
      simp [State.feed, State.step, hc]
    calc State.feed ⟨blocks, .top⟩ ([test, name, openBrace] ++ (body ++ [closeBrace]))
        = State.feed ⟨blocks, .body name [] .ready⟩ (body ++ [closeBrace]) := feed_append opened
      _ = State.feed ⟨blocks, .body name statements .ready⟩ [closeBrace] :=
          feed_append (feed_body hl)
      _ = .ok ⟨blocks ++ [⟨name, statements⟩], .top⟩ := closed

theorem feed_script {more : List Block} {trees : List Tree}
    (h : Listed BlockTree more tokens trees) :
    State.feed ⟨blocks, .top⟩ tokens = .ok ⟨blocks ++ more, .top⟩ := by
  induction h generalizing blocks with
  | nil => rw [List.append_nil]; rfl
  | cons hb _ ih =>
    rw [feed_append (feed_block hb), ih, List.append_assoc]
    rfl

end Completeness

/-! ## What has been read -/

/-- The tokens of a statement that has come this far. -/
inductive ProgressReads : Progress → List Token → Prop
  | ready : ProgressReads .ready []
  | path {method verb} : method.kind = .method verb → ProgressReads (.path method) [method]
  | expect {expect} : expect.kind = .keyword .expect → ProgressReads .expect [expect]
  | status {expect status} :
      expect.kind = .keyword .expect → status.kind = .keyword .status →
      ProgressReads .status [expect, status]
  | code {expect status equals} :
      expect.kind = .keyword .expect → status.kind = .keyword .status →
      equals.kind = .mark .equals → ProgressReads .code [expect, status, equals]
  | low {expect status within} :
      expect.kind = .keyword .expect → status.kind = .keyword .status →
      within.kind = .keyword .within → ProgressReads .low [expect, status, within]
  | range {expect status within min} :
      expect.kind = .keyword .expect → status.kind = .keyword .status →
      within.kind = .keyword .within → min.kind = .integer →
      ProgressReads (.range min) [expect, status, within, min]
  | high {expect status within min range} :
      expect.kind = .keyword .expect → status.kind = .keyword .status →
      within.kind = .keyword .within → min.kind = .integer → range.kind = .mark .range →
      ProgressReads (.high min) [expect, status, within, min, range]
  | contains {expect body} :
      expect.kind = .keyword .expect → body.kind = .keyword .body →
      ProgressReads .contains [expect, body]
  | bodyText {expect body contains} :
      expect.kind = .keyword .expect → body.kind = .keyword .body →
      contains.kind = .keyword .contains → ProgressReads .bodyText [expect, body, contains]
  | headerName {expect header} :
      expect.kind = .keyword .expect → header.kind = .keyword .header →
      ProgressReads .headerName [expect, header]
  | headerEquals {expect header name} :
      expect.kind = .keyword .expect → header.kind = .keyword .header → name.kind = .string →
      ProgressReads (.headerEquals name) [expect, header, name]
  | headerValue {expect header name equals} :
      expect.kind = .keyword .expect → header.kind = .keyword .header → name.kind = .string →
      equals.kind = .mark .equals → ProgressReads (.headerValue name) [expect, header, name, equals]
  | complete {statement tokens} :
      (∀ semicolon : Token, semicolon.kind = .mark .semicolon →
        ∃ tree, StatementTree statement (tokens ++ [semicolon]) tree) →
      ProgressReads (.complete statement) tokens

theorem ProgressReads.step {progress next : Progress} {tokens : List Token} {token : Token}
    (h : ProgressReads progress tokens) (hm : Moves progress token next) :
    ProgressReads next (tokens ++ [token]) := by
  cases hm with
  | method hk =>
    cases h
    exact .path hk
  | expect hk =>
    cases h
    exact .expect hk
  | path hk =>
    cases h with
    | path hm => exact .complete fun _ hs => ⟨_, .request hm hk hs⟩
  | status hk =>
    cases h with
    | expect he => exact .status he hk
  | body hk =>
    cases h with
    | expect he => exact .contains he hk
  | header hk =>
    cases h with
    | expect he => exact .headerName he hk
  | equals hk =>
    cases h with
    | status he ht => exact .code he ht hk
  | within hk =>
    cases h with
    | status he ht => exact .low he ht hk
  | code hk =>
    cases h with
    | code he ht hq => exact .complete fun _ hs => ⟨_, .statusEquals he ht hq hk hs⟩
  | low hk =>
    cases h with
    | low he ht hw => exact .range he ht hw hk
  | range hk =>
    cases h with
    | range he ht hw hn => exact .high he ht hw hn hk
  | high hk =>
    cases h with
    | high he ht hw hn hr =>
      exact .complete fun _ hs => ⟨_, .statusInRange he ht hw hn hr hk hs⟩
  | contains hk =>
    cases h with
    | contains he hb => exact .bodyText he hb hk
  | text hk =>
    cases h with
    | bodyText he hb hc => exact .complete fun _ hs => ⟨_, .bodyContains he hb hc hk hs⟩
  | name hk =>
    cases h with
    | headerName he hh => exact .headerEquals he hh hk
  | headerEquals hk =>
    cases h with
    | headerEquals he hh hn => exact .headerValue he hh hn hk
  | value hk =>
    cases h with
    | headerValue he hh hn hq => exact .complete fun _ hs => ⟨_, .headerEquals he hh hn hq hk hs⟩

/-- The tokens that lead to a state. -/
inductive StateReads : State → List Token → Prop
  | top {blocks tokens trees} :
      Listed BlockTree blocks tokens trees → StateReads ⟨blocks, .top⟩ tokens
  | name {blocks front trees test} :
      Listed BlockTree blocks front trees → test.kind = .keyword .test →
      StateReads ⟨blocks, .name⟩ (front ++ [test])
  | brace {blocks front trees test name} :
      Listed BlockTree blocks front trees → test.kind = .keyword .test → name.kind = .identifier →
      StateReads ⟨blocks, .brace name⟩ (front ++ [test, name])
  | body {blocks front trees test name openBrace statements body bodyTrees progress tokens} :
      Listed BlockTree blocks front trees → test.kind = .keyword .test → name.kind = .identifier →
      openBrace.kind = .mark .openBrace → Listed StatementTree statements body bodyTrees →
      ProgressReads progress tokens →
      StateReads ⟨blocks, .body name statements progress⟩
        (front ++ test :: name :: openBrace :: (body ++ tokens))

/-- Each step extends what has been read by its token. -/
theorem StateReads.step {state next : State} {tokens : List Token} {token : Token}
    (h : StateReads state tokens) (hs : Steps state token next) :
    StateReads next (tokens ++ [token]) := by
  cases hs with
  | test hk =>
    cases h with
    | top hl => exact .name hl hk
  | name hk =>
    cases h with
    | name hl ht =>
      rw [List.append_assoc]
      exact .brace hl ht hk
  | openBrace hk =>
    cases h with
    | brace hl ht hn =>
      rw [List.append_assoc]
      exact .body hl ht hn hk .nil .ready
  | closeBrace hk =>
    cases h with
    | body hl ht hn ho hb hp =>
      cases hp
      rw [List.append_nil, List.append_assoc]
      exact .top (hl.snoc (.mk ht hn ho hb hk))
  | semicolon hk =>
    cases h with
    | body hl ht hn ho hb hp =>
      obtain ⟨tree, hst⟩ : ∃ tree, StatementTree _ _ tree := by
        cases hp with
        | complete hp => exact hp _ hk
      have read := StateReads.body hl ht hn ho (hb.snoc hst) .ready
      simpa using read
  | within hm =>
    cases h with
    | body hl ht hn ho hb hp =>
      have read := StateReads.body hl ht hn ho hb (hp.step hm)
      simpa using read

/-- A run extends what has been read by its tokens. -/
theorem StateReads.feed {state next : State} {tokens more : List Token}
    (h : StateReads state tokens) (hf : state.feed more = .ok next) :
    StateReads next (tokens ++ more) := by
  induction more generalizing state tokens with
  | nil =>
    obtain rfl := Except.ok.inj hf
    rwa [List.append_nil]
  | cons token more ih =>
    rw [State.feed] at hf
    split at hf
    · rename_i middle step
      rw [List.append_cons]
      exact ih (h.step (state_step_iff.1 step)) hf
    · cases hf

theorem stateReads_initial : StateReads .initial [] :=
  .top .nil

/-- A script is read through exactly if it is a list of blocks, and as these blocks. -/
theorem feed_initial_iff {blocks : List Block} {tokens : List Token} :
    State.initial.feed tokens = .ok ⟨blocks, .top⟩ ↔
      ∃ trees, Listed BlockTree blocks tokens trees := by
  constructor
  · intro h
    cases stateReads_initial.feed h with
    | top hl => exact ⟨_, hl⟩
  · rintro ⟨trees, hl⟩
    exact feed_script hl

/-! ## Kinds decide -/

/-- A derivation carries over to any tokens of the same kinds. -/
theorem Derives.relabel {symbols : List Symbol} {tokens others : List Token} {trees : List Tree}
    (h : Derives symbols tokens trees) (hk : others.map Token.kind = tokens.map Token.kind) :
    ∃ otherTrees, otherTrees.length = trees.length ∧ Derives symbols others otherTrees := by
  induction h generalizing others with
  | nil =>
    obtain rfl := List.map_eq_nil_iff.1 hk
    exact ⟨[], rfl, .nil⟩
  | token ht _ ih =>
    obtain ⟨other, rest, rfl, ho, hr⟩ := List.map_eq_cons_iff.1 hk
    obtain ⟨trees, hl, hd⟩ := ih hr
    exact ⟨.leaf other :: trees, by simp [hl], .token (ho.trans ht) hd⟩
  | one ha _ _ ihFront ihBack =>
    rw [List.map_append] at hk
    obtain ⟨front, back, rfl, hf, hb⟩ := List.map_eq_append_iff.1 hk
    obtain ⟨children, -, hc⟩ := ihFront hf
    obtain ⟨trees, hl, hd⟩ := ihBack hb
    exact ⟨.node _ children :: trees, by simp [hl], .one ha hc hd⟩
  | stop _ ih =>
    obtain ⟨trees, hl, hd⟩ := ih hk
    exact ⟨trees, hl, .stop hd⟩
  | again _ _ ihFront ihBack =>
    rw [List.map_append] at hk
    obtain ⟨front, back, rfl, hf, hb⟩ := List.map_eq_append_iff.1 hk
    obtain ⟨trees, hl, hd⟩ := ihBack hb
    obtain ⟨single, hone, hc⟩ := ihFront hf
    obtain ⟨tree, rfl⟩ := List.length_eq_one_iff.1 hone
    exact ⟨tree :: trees, by simp [hl], .again hc hd⟩

theorem sentence_iff {tokens : List Token} :
    Sentence (tokens.map Token.kind) ↔ ∃ tree, Derives [.one .start] tokens [tree] := by
  constructor
  · rintro ⟨others, tree, hk, hd⟩
    obtain ⟨trees, hone, hd⟩ := hd.relabel hk.symm
    obtain ⟨tree, rfl⟩ := List.length_eq_one_iff.1 hone
    exact ⟨tree, hd⟩
  · rintro ⟨tree, hd⟩
    exact ⟨tokens, tree, rfl, hd⟩

/-- A token list is read through to the end exactly if its kinds are those of a script. -/
theorem sentence_iff_feed {tokens : List Token} :
    Sentence (tokens.map Token.kind) ↔
      ∃ blocks, State.initial.feed tokens = .ok ⟨blocks, .top⟩ := by
  simp only [sentence_iff, derives_start_iff, feed_initial_iff]
  constructor
  · rintro ⟨_, blocks, trees, rfl, hl⟩
    exact ⟨blocks, trees, hl⟩
  · rintro ⟨blocks, trees, hl⟩
    exact ⟨_, blocks, trees, rfl, hl⟩

end HttpSuite.Grammar
