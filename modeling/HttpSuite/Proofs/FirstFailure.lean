import HttpSuite.Compile
import HttpSuite.Proofs.Document
import HttpSuite.Proofs.OnDemand

/-!
# The first failing stage

A text is compiled in stages, and the first one that fails decides the outcome. `Outcome` lists the
ways to end, each with the conditions of its own stage and of the stages before it, and
`compile_outcome_iff` says that compilation ends in exactly these ways:

* **the stream** — a refused token or a place where nothing can be lexed, whichever comes first when
  the text is read on demand;
* **the integers** — the first integer token with more digits than are read
  (`ofBlocks_decidedBy_tokens`); nothing else that the grammar accepts is unreadable;
* **the rules** of well-formed programs;
* **the file** — a class can have no usable timeout or no name (`generate_eq_error_iff`), and a module
  can always be written, since the integers of a tree that was read are short enough.
-/

namespace HttpSuite

open Grammar Lexing

/-! ## Oversized integers -/

/-- An integer with more digits than are read. -/
def Token.isOversized (token : Token) : Bool :=
  token.kind == .integer && decide (4300 < token.text.length)

/-- A reading of tokens that fails exactly if one of them is oversized, and with the first of them. -/
def DecidedBy {β : Type} (tokens : List Token) (result : Except UnreadableToken β) : Prop :=
  match tokens.find? Token.isOversized with
  | none => ∃ value, result = .ok value
  | some token => result = .error (.integer token.text (.tooLong token.text.length))

section Decided

variable {β γ : Type} {tokens front back : List Token}

theorem DecidedBy.of_find?_eq {result : Except UnreadableToken β} (h : DecidedBy front result)
    (same : tokens.find? Token.isOversized = front.find? Token.isOversized) :
    DecidedBy tokens result := by
  rw [DecidedBy, same]
  exact h

/-- Readings one after the other: the first failure decides. -/
theorem DecidedBy.bind {first : Except UnreadableToken β} {next : β → Except UnreadableToken γ}
    (h : DecidedBy front first) (hn : ∀ value, DecidedBy back (next value)) :
    DecidedBy (front ++ back) (first >>= next) := by
  rw [DecidedBy, List.find?_append]
  rw [DecidedBy] at h
  cases found : front.find? Token.isOversized with
  | some token =>
    rw [found] at h
    rw [h]
    rfl
  | none =>
    rw [found] at h
    obtain ⟨value, rfl⟩ := h
    exact hn value

theorem decidedBy_ok (value : β) : DecidedBy [] (.ok value) :=
  ⟨value, rfl⟩

theorem DecidedBy.map {first : Except UnreadableToken β} (h : DecidedBy tokens first) (f : β → γ) :
    DecidedBy tokens (first >>= fun value => .ok (f value)) := by
  rw [← List.append_nil tokens]
  exact h.bind fun value => decidedBy_ok (f value)

end Decided

theorem decidedBy_integer {token : Token} (h : token.word.Lexical) (hk : token.kind = .integer) :
    DecidedBy [token] token.integer := by
  have matched : KindMatches token.kind token.text.toList := h.matched
  rw [hk] at matched
  have ne : token.text ≠ "" := by
    rintro empty
    rw [empty] at matched
    exact matched.1 rfl
  -- Digits alone are a numeral, so nothing but their number can make them unreadable.
  have read := Number.ofNumeral_of_isDigit ne matched.2
  have oversized : token.isOversized = decide (Number.maxDigits < token.text.length) := by
    rw [Token.isOversized, hk]
    rfl
  by_cases long : Number.maxDigits < token.text.length
  · rw [if_pos long] at read
    rw [DecidedBy, List.find?_singleton, oversized, decide_eq_true long, Token.integer, read]
    rfl
  · rw [if_neg long] at read
    rw [DecidedBy, List.find?_singleton, oversized, decide_eq_false long, Token.integer, read]
    exact ⟨_, rfl⟩

theorem decidedBy_statement {statement : Statement} {tokens : List Token} {tree : Tree}
    (h : StatementTree statement tokens tree) (lexical : ∀ token ∈ tokens, token.word.Lexical) :
    DecidedBy tokens statement.content := by
  -- The search passes over every token that is no integer; those never fail either.
  cases h with
  | @request method path semicolon verb hm hp hs =>
    have spelling : verb.text = method.text := by
      have matched : KindMatches method.kind method.text.toList := (lexical method (by simp)).matched
      rw [hm] at matched
      exact (String.toList_inj.1 matched).symm
    rw [Statement.content, method_of_text spelling]
    refine (decidedBy_ok _).of_find?_eq ?_
    simp [Token.isOversized, hm, hp, hs]
  | @statusEquals expect status equals code semicolon he ht hq hc hs =>
    have read := (decidedBy_integer (lexical code (by simp)) hc).map
      fun value => (Sum.inr (.statusEquals value) : Request ⊕ Assertion)
    refine read.of_find?_eq ?_
    simp [List.find?_cons, Token.isOversized, he, ht, hq, hs]
  | @statusInRange expect status within min range max semicolon he ht hw hm hg hx hs =>
    have read := (decidedBy_integer (lexical min (by simp)) hm).bind fun low =>
      (decidedBy_integer (lexical max (by simp)) hx).map
        fun high => (Sum.inr (.statusInRange low high) : Request ⊕ Assertion)
    refine read.of_find?_eq ?_
    simp [List.find?_cons, Token.isOversized, he, ht, hw, hg, hs]
  | @bodyContains expect body contains text semicolon he hb hc ht hs =>
    refine (decidedBy_ok _).of_find?_eq ?_
    simp [Token.isOversized, he, hb, hc, ht, hs]
  | @headerEquals expect header name equals value semicolon he hh hn hq hv hs =>
    refine (decidedBy_ok _).of_find?_eq ?_
    simp [Token.isOversized, he, hh, hn, hq, hv, hs]

theorem decidedBy_listed {α β : Type} {Parsed : α → List Token → Tree → Prop}
    {read : α → Except UnreadableToken β} {items : List α} {tokens : List Token} {trees : List Tree}
    (h : Listed Parsed items tokens trees) (lexical : ∀ token ∈ tokens, token.word.Lexical)
    (single : ∀ item part tree, Parsed item part tree → (∀ token ∈ part, token.word.Lexical) →
      DecidedBy part (read item)) :
    DecidedBy tokens (items.mapM read) := by
  induction h with
  | nil => exact decidedBy_ok []
  | cons parsed _ ih =>
    rw [List.forall_mem_append] at lexical
    rw [List.mapM_cons]
    exact (single _ _ _ parsed lexical.1).bind fun value => (ih lexical.2).map (value :: ·)

theorem decidedBy_block {block : Block} {tokens : List Token} {tree : Tree}
    (h : BlockTree block tokens tree) (lexical : ∀ token ∈ tokens, token.word.Lexical) :
    DecidedBy tokens block.test := by
  cases h with
  | @mk test name openBrace closeBrace statements body trees ht hn ho listed hc =>
    have inside : ∀ token ∈ body, token.word.Lexical := fun token hm => lexical token (by simp [hm])
    have read := (decidedBy_listed listed inside fun _ _ _ => decidedBy_statement).map
      fun contents => (⟨name.text, contents.filterMap Sum.getLeft?,
        contents.filterMap Sum.getRight?⟩ : TestBlock)
    refine read.of_find?_eq ?_
    simp [List.find?_append, Token.isOversized, ht, hn, ho, hc]

theorem decidedBy_program {blocks : List Block} {tokens : List Token} {trees : List Tree}
    (h : Listed BlockTree blocks tokens trees) (lexical : ∀ token ∈ tokens, token.word.Lexical) :
    DecidedBy tokens (Program.ofBlocks blocks) :=
  (decidedBy_listed h lexical fun _ _ _ => decidedBy_block).map Program.mk

/-! ## Parsing -/

theorem parse_of_read {source : String} {blocks : List Block}
    (h : readOnDemand .initial .start source.toList = .ok blocks) :
    parse source = (Program.ofBlocks blocks).mapError .value := by
  rw [parse_eq_readOnDemand, h]
  rfl

/-- The blocks of a text that is read through have a tree unless one of its integers is oversized. -/
theorem ofBlocks_decidedBy_tokens {source : String} {blocks : List Block}
    (h : readOnDemand .initial .start source.toList = .ok blocks) :
    DecidedBy (Stream.ofText source).tokens (Program.ofBlocks blocks) := by
  rw [readOnDemand_eq] at h
  change (Stream.ofText source).blocksFrom .initial = .ok blocks at h
  rw [Stream.blocksFrom] at h
  split at h
  · cases h
  · cases h
  · rename_i state position fed ending
    have finished : state.finish (.endOfInput position) = .ok blocks := by
      cases done : state.finish (.endOfInput position) with
      | error fault =>
        rw [done] at h
        cases h
      | ok found =>
        rw [done] at h
        exact congrArg Except.ok (Except.ok.inj h)
    rw [finish_ok_iff.1 finished] at fed
    obtain ⟨trees, listed⟩ := feed_initial_iff.1 fed
    exact decidedBy_program listed fun token hm => lexical_of_mem_ofText hm

theorem parse_of_analyze {source : String} {program : Program}
    (h : analyze source = .ok program) : parse source = .ok program := by
  rw [analyze] at h
  cases parsed : parse source with
  | error failure =>
    rw [parsed] at h
    cases h
  | ok tree =>
    rw [parsed] at h
    change (tree.validate).mapError _ = _ at h
    rw [Program.validate] at h
    cases checked : tree.violation? with
    | some violation =>
      rw [checked] at h
      cases h
    | none =>
      rw [checked] at h
      exact congrArg Except.ok (Except.ok.inj h)

/-- Reading on demand meets refused tokens and faults of the text, and nothing else. -/
theorem readOnDemand_error {state : State} {position : Position} {cs : List Char}
    {failure : ParseFailure} (h : readOnDemand state position cs = .error failure) :
    (∃ fault, failure = .grammar fault) ∨ ∃ fault, failure = .lexical fault := by
  rw [readOnDemand_eq, Stream.blocksFrom] at h
  split at h
  · exact .inl ⟨_, (Except.error.inj h).symm⟩
  · exact .inr ⟨_, (Except.error.inj h).symm⟩
  · rename_i final position _ _
    cases done : final.finish (.endOfInput position) with
    | error fault =>
      rw [done] at h
      exact .inl ⟨fault, (Except.error.inj h).symm⟩
    | ok blocks =>
      rw [done] at h
      cases h

/-! ## Files -/

/-- The timeout of the settings in milliseconds, before it is cut to a whole number. -/
def Settings.millis (settings : Settings) : Number.Binary64 :=
  settings.generation.timeout.mul (.ofInt 1000)

/-- Why no class can be written: the timeout has no whole number of milliseconds, or else the class
is neither named by the settings nor can be named after the output. -/
inductive ClassFault (settings : Settings) (outputName : Option RawText) : Failure → Prop
  | infinite {negative} :
      settings.millis = .infinite negative → ClassFault settings outputName (.timeout .infinite)
  | notANumber : settings.millis = .nan → ClassFault settings outputName (.timeout .notANumber)
  | className {output} :
      settings.millis.isFinite → settings.targets.java.className = none →
      outputName = some output → output ≠ [] →
      (∀ name, (Path.ofText output).stem = RawText.ofText name → isJavaName name = false) →
      ClassFault settings outputName
        (.error (.unwritable (Path.ofText output) (.className (Path.ofText output).stem)))

theorem className_eq_error_iff {options : JavaOptions} {outputName : Option RawText}
    {failure : Emit.Failure} :
    Emit.JavaClass.className options outputName = .error failure ↔
      ∃ output, options.className = none ∧ outputName = some output ∧ output ≠ [] ∧
        (∀ name, (Path.ofText output).stem = RawText.ofText name → isJavaName name = false) ∧
        failure = .className output (Path.ofText output).stem := by
  cases configured : options.className with
  | some name => simp [Emit.JavaClass.className, configured]
  | none =>
    cases outputName with
    | none => simp [Emit.JavaClass.className, configured]
    | some output =>
      by_cases empty : output = []
      · simp [Emit.JavaClass.className, configured, empty]
      have named {name : String} := @Emit.JavaClass.className_of_output _ _ configured empty name
      constructor
      · intro failed
        refine ⟨output, rfl, rfl, empty, fun name same => ?_,
          Emit.JavaClass.failure_of_output configured empty failed⟩
        by_contra java
        rw [named.2 ⟨Bool.not_eq_false _ ▸ java, same⟩] at failed
        cases failed
      · rintro ⟨_, -, ⟨⟩, -, refused, rfl⟩
        cases result : Emit.JavaClass.className options (some output) with
        | ok name =>
          obtain ⟨java, same⟩ := named.1 result
          rw [refused name same] at java
          cases java
        | error other => rw [Emit.JavaClass.failure_of_output configured empty result]

theorem headerLines_java (settings : Settings) (sourceName : Option String)
    (outputName : Option RawText) :
    Emit.headerLines .java settings sourceName outputName =
      match settings.millis with
      | .infinite _ => .error (.timeout .infinite)
      | .nan => .error (.timeout .notANumber)
      | .finite negative mantissa exponent =>
        (Emit.JavaClass.className settings.targets.java outputName).map
          (Emit.JavaClass.header settings sourceName
            (Number.Binary64.truncate negative mantissa exponent)) := by
  rw [Emit.headerLines, Emit.JavaClass.milliseconds, Settings.millis]
  cases settings.generation.timeout.mul (.ofInt 1000) <;> rfl

theorem headerLines_eq_error_iff {target : Target} {settings : Settings}
    {sourceName : Option String} {outputName : Option RawText} {failure : Failure} :
    (∃ cause, Emit.headerLines target settings sourceName outputName = .error cause ∧
      Failure.ofEmit cause = failure) ↔ target = .java ∧ ClassFault settings outputName failure := by
  cases target with
  | python => simp [Emit.headerLines]
  | java =>
    rw [headerLines_java]
    constructor
    · rintro ⟨cause, h, rfl⟩
      refine ⟨rfl, ?_⟩
      cases product : settings.millis with
      | infinite negative =>
        rw [product] at h
        obtain rfl := Except.error.inj h
        exact .infinite product
      | nan =>
        rw [product] at h
        obtain rfl := Except.error.inj h
        exact .notANumber product
      | finite negative mantissa exponent =>
        rw [product] at h
        cases named : Emit.JavaClass.className settings.targets.java outputName with
        | ok name =>
          rw [named] at h
          cases h
        | error fault =>
          rw [named] at h
          obtain rfl := Except.error.inj h
          obtain ⟨output, configured, written, nonempty, refused, rfl⟩ :=
            className_eq_error_iff.1 named
          exact .className (by rw [product]; rfl) configured written nonempty refused
    · rintro ⟨-, fault⟩
      cases fault with
      | infinite product => exact ⟨_, by rw [product], rfl⟩
      | notANumber product => exact ⟨_, by rw [product], rfl⟩
      | @className output finite configured written nonempty refused =>
        have unnamed := className_eq_error_iff.2
          ⟨output, configured, written, nonempty, refused, rfl⟩
        cases product : settings.millis with
        | finite => exact ⟨_, by rw [unnamed]; rfl, rfl⟩
        | _ => rw [product] at finite; cases finite

/-- A module is always written if its integers can be, and so is a class unless it has a fault. -/
theorem generate_eq_error_iff {target : Target} {settings : Settings}
    {sourceName outputName : Option RawText} {program : Program} {failure : Failure}
    (writable : Emit.AllWritable target program.tests) :
    generate target settings sourceName outputName program = .error failure ↔
      target = .java ∧ ClassFault settings outputName failure := by
  rw [← @headerLines_eq_error_iff target settings none, generate, Emit.document_eq_afterName,
    Emit.afterName, Emit.laterLines, if_pos writable]
  cases Emit.headerLines target settings none outputName with
  | ok header => simp [Except.map, Except.mapError]
  | error cause => simp [Except.map, Except.mapError]

/-! ## Outcomes -/

/-- A text passes the first two stages and has a tree. -/
structure HasTree (source : String) (program : Program) : Prop where
  read : ∃ blocks, readOnDemand .initial .start source.toList = .ok blocks
  integers : (Stream.ofText source).tokens.find? Token.isOversized = none
  tree : parse source = .ok program

/-- The ways in which the compilation of a text ends: with a failure, or with the text of a file. -/
inductive Outcome (target : Target) (settings : Settings) (outputName : Option RawText)
    (source : String) : Option Failure → Prop
  | refused {fault} :
      readOnDemand .initial .start source.toList = .error (.grammar fault) →
      Outcome target settings outputName source (some (.error (.grammar fault)))
  | unlexable {fault} :
      readOnDemand .initial .start source.toList = .error (.lexical fault) →
      Outcome target settings outputName source (some (.error (.lexical fault)))
  | oversized {blocks token} :
      readOnDemand .initial .start source.toList = .ok blocks →
      (Stream.ofText source).tokens.find? Token.isOversized = some token →
      Outcome target settings outputName source
        (some (.value (.integer token.text (.tooLong token.text.length))))
  | malformed {program violation} :
      HasTree source program → program.validate = .error violation →
      Outcome target settings outputName source (some (.error (.structural violation)))
  | unwritable {program failure} :
      HasTree source program → program.validate = .ok program →
      target = .java → ClassFault settings outputName failure →
      Outcome target settings outputName source (some failure)
  | written {program} :
      HasTree source program → program.validate = .ok program →
      (target = .java → ∀ failure, ¬ ClassFault settings outputName failure) →
      Outcome target settings outputName source none

/-- The failure of a compilation that has one. -/
def failureOf : Except Failure RawText → Option Failure
  | .ok _ => none
  | .error failure => some failure

section Stages

variable {requested : Option Target} {settings : Settings}
  {sourceName outputName : Option RawText} {source : String}

theorem compile_of_parse_error {failure : ParseFailure} (h : parse source = .error failure) :
    compile requested settings sourceName outputName source = .error (.ofParse failure) := by
  rw [compile, analyze, h]
  rfl

theorem compile_of_violation {program : Program} {violation : Violation}
    (h : parse source = .ok program) (hv : program.validate = .error violation) :
    compile requested settings sourceName outputName source = .error (.error (.structural violation)) := by
  rw [compile, analyze, h]
  show ((program.validate).mapError _ >>= _) = _
  rw [hv]
  rfl

theorem compile_of_valid {program : Program} (h : parse source = .ok program)
    (hv : program.validate = .ok program) :
    compile requested settings sourceName outputName source =
      generate (settings.targetFor requested) settings sourceName outputName program := by
  rw [compile, analyze, h]
  show ((program.validate).mapError _ >>= _) = _
  rw [hv]
  rfl

/-- Compilation ends as it should. -/
theorem Outcome.failureOf_compile {verdict : Option Failure}
    (h : Outcome (settings.targetFor requested) settings outputName source verdict) :
    failureOf (compile requested settings sourceName outputName source) = verdict := by
  cases h with
  | refused read =>
    rw [compile_of_parse_error (by rw [parse_eq_readOnDemand, read]; rfl)]
    rfl
  | unlexable read =>
    rw [compile_of_parse_error (by rw [parse_eq_readOnDemand, read]; rfl)]
    rfl
  | @oversized blocks token read found =>
    have value := ofBlocks_decidedBy_tokens read
    rw [DecidedBy, found] at value
    have unreadable : parse source =
        .error (.value (.integer token.text (.tooLong token.text.length))) := by
      rw [parse_of_read read, value]
      rfl
    rw [compile_of_parse_error unreadable]
    rfl
  | malformed tree broken => rw [compile_of_violation tree.tree broken]; rfl
  | unwritable tree valid java fault =>
    have writable := Emit.allWritable_of_parse tree.tree (settings.targetFor requested)
    rw [compile_of_valid tree.tree valid, (generate_eq_error_iff writable).2 ⟨java, fault⟩]
    rfl
  | @written program tree valid faultless =>
    have writable := Emit.allWritable_of_parse tree.tree (settings.targetFor requested)
    rw [compile_of_valid tree.tree valid]
    cases made : generate (settings.targetFor requested) settings sourceName outputName program with
    | ok text => rfl
    | error failure =>
      obtain ⟨java, fault⟩ := (generate_eq_error_iff writable).1 made
      exact absurd fault (faultless java failure)

/-- There is always a way to end. -/
theorem exists_outcome (target : Target) (settings : Settings) (outputName : Option RawText)
    (source : String) : ∃ verdict, Outcome target settings outputName source verdict := by
  cases read : readOnDemand .initial .start source.toList with
  | error failure =>
    obtain ⟨fault, rfl⟩ | ⟨fault, rfl⟩ := readOnDemand_error read
    · exact ⟨_, .refused read⟩
    · exact ⟨_, .unlexable read⟩
  | ok blocks =>
    cases found : (Stream.ofText source).tokens.find? Token.isOversized with
    | some token => exact ⟨_, .oversized read found⟩
    | none =>
      have value := ofBlocks_decidedBy_tokens read
      rw [DecidedBy, found] at value
      obtain ⟨program, made⟩ := value
      have tree : HasTree source program := by
        refine ⟨⟨blocks, read⟩, found, ?_⟩
        rw [parse_of_read read, made]
        rfl
      cases checked : program.violation? with
      | some violation =>
        exact ⟨_, .malformed tree (by rw [Program.validate, checked])⟩
      | none =>
        have valid : program.validate = .ok program := by rw [Program.validate, checked]
        by_cases fault : target = .java ∧ ∃ failure, ClassFault settings outputName failure
        · obtain ⟨java, failure, fault⟩ := fault
          exact ⟨_, .unwritable tree valid java fault⟩
        · exact ⟨_, .written tree valid fun java failure h => fault ⟨java, failure, h⟩⟩

theorem outcome_iff {verdict : Option Failure} :
    Outcome (settings.targetFor requested) settings outputName source verdict ↔
      failureOf (compile requested settings sourceName outputName source) = verdict := by
  constructor
  · exact Outcome.failureOf_compile
  · intro h
    -- Some way to end exists, and compilation already ends in it.
    obtain ⟨other, outcome⟩ :=
      exists_outcome (settings.targetFor requested) settings outputName source
    rw [← h, outcome.failureOf_compile]
    exact outcome

end Stages

/-- **The first failing stage decides.** Compilation for the target that is asked for, or else for the
one that is set, ends in exactly one of the listed ways, and with a text if no stage fails. A module is
written for every well-formed program, and a failure without a diagnostic is an oversized integer or a
timeout of a class. -/
theorem compile_outcome_iff (requested : Option Target) (settings : Settings)
    (sourceName outputName : Option RawText) (source : String) :
    (∀ failure, compile requested settings sourceName outputName source = .error failure ↔
      Outcome (settings.targetFor requested) settings outputName source (some failure)) ∧
    ((∃ text, compile requested settings sourceName outputName source = .ok text) ↔
      Outcome (settings.targetFor requested) settings outputName source none) ∧
    (∀ program, analyze source = .ok program →
      ∃ text, compile (some .python) settings sourceName outputName source = .ok text) ∧
    (∀ failure, compile requested settings sourceName outputName source = .error failure →
      (∃ error, failure = .error error) ∨
      (∃ token ∈ (Stream.ofText source).tokens, token.isOversized ∧
        failure = .value (.integer token.text (.tooLong token.text.length))) ∨
      (settings.targetFor requested = .java ∧ settings.millis.isFinite = false ∧
        ∃ fault, failure = .timeout fault)) := by
  have failed : ∀ failure, compile requested settings sourceName outputName source = .error failure ↔
      Outcome (settings.targetFor requested) settings outputName source (some failure) := by
    intro failure
    rw [outcome_iff]
    cases compile requested settings sourceName outputName source <;> simp [failureOf]
  refine ⟨failed, ?_, ?_, ?_⟩
  · rw [outcome_iff]
    cases compile requested settings sourceName outputName source <;> simp [failureOf]
  · intro program analyzed
    have writable := Emit.allWritable_of_parse (parse_of_analyze analyzed) .python
    rw [compile, analyzed]
    cases made : generate .python settings sourceName outputName program with
    | ok text => exact ⟨text, made⟩
    | error failure => cases ((generate_eq_error_iff writable).1 made).1
  · intro failure h
    cases (failed failure).1 h with
    | refused | unlexable | malformed => exact .inl ⟨_, rfl⟩
    | oversized _ found =>
      exact .inr (.inl ⟨_, List.mem_of_find?_eq_some found, List.find?_some found, rfl⟩)
    | unwritable _ _ java fault =>
      cases fault with
      | className => exact .inl ⟨_, rfl⟩
      | infinite product => exact .inr (.inr ⟨java, by rw [product]; rfl, _, rfl⟩)
      | notANumber product => exact .inr (.inr ⟨java, by rw [product]; rfl, _, rfl⟩)

/-- A refused brace in front of an open string; a well-formed test as a module; and the same test as the
class that the settings ask for, whose timeout and whose name are both unusable, where the timeout is
reported. -/
theorem compile_outcome_two_faults :
    Outcome .java {} none "\x7d\""
      (some (.error (.grammar ⟨⟨.mark .closeBrace, "\x7d", ⟨1, 1⟩⟩, [.keyword .test, .eof]⟩))) ∧
    (∃ text, compile (some .python) { generation := { timeout := .nan } } none
      (some (RawText.ofText "1.java"))
      "test A\x7bGET \"\";expect status=1;expect body contains \"\";\x7d" = .ok text) ∧
    Outcome .java { target := .java, generation := { timeout := .nan } }
      (some (RawText.ofText "1.java"))
      "test A\x7bGET \"\";expect status=1;expect body contains \"\";\x7d"
      (some (.timeout .notANumber)) := by
  have refused : compile (some .java) {} none none "\x7d\"" =
      .error (.error (.grammar ⟨⟨.mark .closeBrace, "\x7d", ⟨1, 1⟩⟩, [.keyword .test, .eof]⟩)) := by
    decide +kernel
  have analyzed : analyze "test A\x7bGET \"\";expect status=1;expect body contains \"\";\x7d" =
      .ok ⟨[⟨"A", [⟨.get, ""⟩], [.statusEquals 1, .bodyContains ""]⟩]⟩ := by
    decide +kernel
  have timeless : compile none { target := .java, generation := { timeout := .nan } } none
      (some (RawText.ofText "1.java"))
      "test A\x7bGET \"\";expect status=1;expect body contains \"\";\x7d" =
        .error (.timeout .notANumber) := by
    rw [compile, analyzed]
    decide +kernel
  exact ⟨((compile_outcome_iff (some .java) _ _ _ _).1 _).1 refused,
    (compile_outcome_iff (some .python) _ _ _ _).2.2.1 _ analyzed,
    ((compile_outcome_iff none _ _ _ _).1 _).1 timeless⟩

end HttpSuite
