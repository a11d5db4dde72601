import HttpSuite.Proofs.AllOrNothing
import HttpSuite.Proofs.FirstFailure
import HttpSuite.Proofs.ReadBack
import HttpSuite.Proofs.Utf8

/-!
# Files and texts

A file is checked and compiled as the text that it holds (`compileFile_agrees_with_compile`):

* **the text** — the bytes of the file as UTF-8, in which a carriage return, with a line feed or by
  itself, is a line feed (`Workspace.Holds`);
* **failures** — those of the stages in front of generation (`Failure.FrontEnd`) are the same for the
  file and for its text. Generating and writing have failures of their own;
* **outputs** — the generated text is the one that is written, with a unit for each test;
* **unreadable files** — without a text, checking and compiling fail alike (`FailsAlike`). Only a path
  that the file system is not asked for, because it cannot be encoded or holds a null character, has a
  failure that belongs to no stage.
-/

namespace HttpSuite

open Grammar

/-! ## The text of a file -/

namespace Text

/-- A text with a line feed for every pair of carriage return and line feed, and for every other
carriage return. What becomes of a character depends on the next one. -/
def translated (cs : List Char) : List Char :=
  (cs.zip (cs.tail.map some ++ [none])).filterMap fun (c, next) =>
    if c = '\r' then if next = some '\n' then none else some '\n' else some c

theorem translated_cons (c : Char) (cs : List Char) :
    translated (c :: cs) =
      (if c = '\r' then if cs.head? = some '\n' then [] else ['\n'] else [c]) ++ translated cs := by
  cases cs with
  | nil => by_cases h : c = '\r' <;> simp [translated, h]
  | cons d ds =>
    by_cases h : c = '\r'
    · by_cases feed : d = '\n' <;> simp [translated, h, feed]
    · simp [translated, h]

theorem unifyLineEnds_eq_translated (cs : List Char) : unifyLineEnds cs = translated cs := by
  fun_induction unifyLineEnds cs with
  | case1 => rfl
  | case2 rest ih => rw [translated_cons, translated_cons, ih]; rfl
  | case3 c rest single ih =>
    have lone : c = '\r' → rest.head? ≠ some '\n' := by
      rintro rfl feed
      obtain ⟨tail, rfl⟩ := List.head?_eq_some_iff.1 feed
      exact single tail rfl rfl
    rw [translated_cons, ih]
    by_cases h : c = '\r'
    · rw [if_pos h, if_pos h, if_neg (lone h), List.singleton_append]
    · rw [if_neg h, if_neg h, List.singleton_append]

end Text

/-- The text that a file holds. -/
def Workspace.Holds (ws : Workspace) (path : Path) (source : String) : Prop :=
  ∃ text, ws.contents path = .ok (Text.encodeUtf8 text) ∧
    source = String.ofList (Text.translated text.toList)

section Reading

variable {ws : Workspace} {path : Path}

theorem Workspace.Holds.readSource {source : String} (h : ws.Holds path source) :
    ws.readSource path = .ok source := by
  obtain ⟨text, found, rfl⟩ := h
  rw [Workspace.readSource, found, ← Text.unifyLineEnds_eq_translated]
  dsimp only
  rw [Text.decodeUtf8_eq_ok_iff.2 rfl]

theorem readSource_of_no_text {bytes : List UInt8} (found : ws.contents path = .ok bytes)
    (none : ∀ text, Text.encodeUtf8 text ≠ bytes) :
    ∃ fault, ws.readSource path = .error (.error (.unreadable path (.encoding fault))) := by
  obtain ⟨fault, undecoded⟩ := Text.exists_decode_error_iff.2 none
  refine ⟨fault, ?_⟩
  rw [Workspace.readSource, found]
  dsimp only
  rw [undecoded]

/-- What a path that can be spelled is refused for is told by the file system. -/
theorem isUnasked_of_contents (spelled : FileFault.ofSpelling? path.text = none) {error : FileError}
    (unread : ws.contents path = .error error) : error.fault.isUnasked = false := by
  unfold Workspace.contents at unread
  dsimp only at unread
  split at unread
  · rename_i fault missed
    obtain rfl := Except.error.inj unread
    exact Workspace.isUnasked_of_locate spelled missed
  · rename_i place located
    split at unread
    · rename_i fault missed
      obtain rfl := Except.error.inj unread
      unfold Workspace.existing at missed
      split at missed
      · cases missed
      · obtain rfl := Except.error.inj missed
        rfl
    · rename_i refused _ _
      obtain rfl := Except.error.inj unread
      exact refused.property.2
    · split at unread
      · obtain rfl := Except.error.inj unread
        rfl
      · split at unread
        · obtain rfl := Except.error.inj unread
          rfl
        · cases unread

theorem ofFile_of_asked {error : FileError} (asked : error.fault.isUnasked = false)
    (report : FileError → CompileError) : Failure.ofFile error report = .error (report error) := by
  unfold Failure.ofFile
  split
  · rename_i null
    rw [null] at asked
    cases asked
  · rename_i fault unencodable
    rw [unencodable] at asked
    cases asked
  · rfl

theorem readSource_of_unreadable {error : FileError} (unread : ws.contents path = .error error)
    (spelled : FileFault.ofSpelling? path.text = none) :
    ws.readSource path = .error (.error (.unreadable path (.file error))) := by
  rw [Workspace.readSource, unread]
  dsimp only
  rw [ofFile_of_asked (isUnasked_of_contents spelled unread)]

theorem contents_of_misspelled {fault : FileFault} (h : FileFault.ofSpelling? path.text = some fault) :
    ws.contents path = .error { fault, path := some path.text } := by
  rw [Workspace.contents, Workspace.locate, h]

theorem readSource_of_unencodable {fault : EncodingFault} (h : Text.nameFault? path.text = some fault) :
    ws.readSource path = .error (.unencodable fault) := by
  have misspelled : FileFault.ofSpelling? path.text = some (.unencodable fault) := by
    rw [FileFault.ofSpelling?, h]
  rw [Workspace.readSource, contents_of_misspelled misspelled]
  rfl

theorem readSource_of_null (encodable : Text.nameFault? path.text = none)
    (null : .char '\x00' ∈ path.text) : ws.readSource path = .error .nullPath := by
  have misspelled : FileFault.ofSpelling? path.text = some .nullCharacter := by
    rw [FileFault.ofSpelling?, encodable]
    exact if_pos (List.contains_iff_mem.2 null)
  rw [Workspace.readSource, contents_of_misspelled misspelled]
  rfl

end Reading

/-! ## Failures of the stages -/

/-- The failures of lexing, parsing and checking, and of a token without a value. -/
def Failure.FrontEnd : Failure → Prop
  | .error cause => cause.stage ≠ .codegen
  | .value _ => True
  | .digits | .timeout _ | .nullPath | .unencodable _ => False

theorem frontEnd_of_analyze {source : String} {failure : Failure}
    (h : analyze source = .error failure) : failure.FrontEnd := by
  unfold analyze at h
  cases parsed : parse source with
  | error fault =>
    rw [parsed] at h
    obtain rfl := Except.error.inj h
    cases fault <;> simp [Failure.ofParse, Failure.FrontEnd, CompileError.stage]
  | ok program =>
    rw [parsed] at h
    change (program.validate).mapError _ = _ at h
    cases checked : program.validate with
    | error violation =>
      rw [checked] at h
      obtain rfl := Except.error.inj h
      simp [Failure.FrontEnd, CompileError.stage]
    | ok valid =>
      rw [checked] at h
      cases h

section Stages

variable {ws : Workspace} {requested : Option Target} {target : Target} {settings : Settings}
  {input output : Path} {sourceName outputName : Option RawText} {source : String} {text : RawText}
  {program : Program} {failure : Failure}

theorem not_frontEnd_of_generate
    (h : generate target settings sourceName outputName program = .error failure) :
    ¬ failure.FrontEnd := by
  rw [generate] at h
  cases made : Emit.document target settings sourceName outputName program with
  | ok file =>
    rw [made] at h
    cases h
  | error cause =>
    rw [made] at h
    obtain rfl := Except.error.inj h
    cases cause <;> simp [Failure.ofEmit, Failure.FrontEnd, CompileError.stage]

theorem not_frontEnd_of_store (h : (ws.store text output).1 = .error failure) :
    ¬ failure.FrontEnd := by
  unfold Workspace.store at h
  split at h
  · cases h
  · obtain rfl := Except.error.inj h
    unfold Failure.ofFile
    split <;> simp [Failure.FrontEnd, CompileError.stage]

/-- A failure in front of generation is one of the analysis. -/
theorem compile_eq_error_iff_analyze (front : failure.FrontEnd) :
    compile requested settings sourceName outputName source = .error failure ↔
      analyze source = .error failure := by
  rw [compile]
  cases analyzed : analyze source with
  | error fault =>
    show (Except.error fault : Except Failure RawText) = .error failure ↔ _
    rw [Except.error.injEq, Except.error.injEq]
  | ok program =>
    refine iff_of_false (fun failed => ?_) (by rintro ⟨⟩)
    exact not_frontEnd_of_generate failed front

theorem checkFile_of_readSource (read : ws.readSource input = .ok source) :
    ws.checkFile input = analyze source := by
  rw [Workspace.checkFile, read]
  rfl

/-- A text that cannot be compiled makes the compilation of its file fail before anything is written. -/
theorem compileFile_of_compile_error (read : ws.readSource input = .ok source)
    (h : compile requested settings (some input.name) (some output.name) source = .error failure) :
    compileFile requested settings input output ws = (.error failure, ws) := by
  rw [compile] at h
  have unprepared : ws.prepare (settings.targetFor requested) settings input output = .error failure := by
    rw [Workspace.prepare, checkFile_of_readSource read]
    cases analyzed : analyze source with
    | error fault =>
      rw [analyzed] at h
      obtain rfl := Except.error.inj h
      rfl
    | ok program =>
      rw [analyzed] at h
      change generate (settings.targetFor requested) settings (some input.name) (some output.name) program = _ at h
      show (generate (settings.targetFor requested) settings (some input.name) (some output.name) program >>= _) = _
      rw [h]
      rfl
  rw [compileFile, unprepared]

/-- A text that is compiled is what the compilation of its file writes. -/
theorem compileFile_of_compile_ok (read : ws.readSource input = .ok source)
    (h : compile requested settings (some input.name) (some output.name) source = .ok text) :
    ∃ program, analyze source = .ok program ∧
      generate (settings.targetFor requested) settings (some input.name) (some output.name) program = .ok text ∧
      compileFile requested settings input output ws =
        ((ws.store text output).1.map fun _ =>
          ⟨input, output, settings.targetFor requested, program.tests.length, text⟩,
          (ws.store text output).2) := by
  obtain ⟨program, analyzed, generated⟩ := exists_of_bind_ok h
  refine ⟨program, analyzed, generated, ?_⟩
  have prepared : ws.prepare (settings.targetFor requested) settings input output = .ok (program, text) := by
    rw [Workspace.prepare, checkFile_of_readSource read, analyzed]
    show (generate (settings.targetFor requested) settings (some input.name) (some output.name) program >>= _) = _
    rw [generated]
    rfl
  rw [compileFile, prepared]

theorem compileFile_eq_error_iff_compile (read : ws.readSource input = .ok source)
    (front : failure.FrontEnd) :
    (compileFile requested settings input output ws).1 = .error failure ↔
      compile requested settings (some input.name) (some output.name) source = .error failure := by
  cases compiled : compile requested settings (some input.name) (some output.name) source with
  | error fault =>
    rw [compileFile_of_compile_error read compiled]
    simp
  | ok text =>
    obtain ⟨program, -, -, outcome⟩ := compileFile_of_compile_ok read compiled
    refine iff_of_false (fun failed => ?_) (by rintro ⟨⟩)
    rw [outcome] at failed
    cases stored : (ws.store text output).1 with
    | error fault =>
      rw [stored] at failed
      obtain rfl := Except.error.inj failed
      exact not_frontEnd_of_store stored front
    | ok _ =>
      rw [stored] at failed
      cases failed

/-- A generated text consists of a header and a unit for each test. -/
theorem exists_header_of_generate {name file : String}
    (h : generate target settings (some (RawText.ofText name)) outputName program =
      .ok (RawText.ofText file)) :
    ∃ header, file = String.ofList
      (Emit.written (Emit.documentLines target settings program header)) := by
  have named := (Emit.document_ofText target settings (some name) outputName program).symm.trans
    (document_of_generate h)
  cases made : Emit.text target settings (some name) outputName program with
  | error cause =>
    rw [made] at named
    cases named
  | ok other =>
    rw [made] at named
    obtain rfl := RawText.ofText_injective (Except.ok.inj named)
    obtain ⟨-, header, -, whole⟩ := Emit.text_eq_ok_iff.1 made
    exact ⟨header, whole⟩

theorem length_unitBlocks (target : Target) (settings : Settings) (program : Program) :
    (Emit.unitBlocks target settings program).length = program.tests.length := by
  rw [Emit.unitBlocks, List.length_zipWith, Emit.length_unitNames, List.length_map, Nat.min_self]

/-- Checking and compiling a file fail in the same way, and nothing is written. -/
def FailsAlike (ws : Workspace) (input : Path) (failure : Failure) : Prop :=
  ws.checkFile input = .error failure ∧
    ∀ requested settings output,
      compileFile requested settings input output ws = (.error failure, ws)

theorem failsAlike_of_readSource (unread : ws.readSource input = .error failure) :
    FailsAlike ws input failure := by
  have unchecked : ws.checkFile input = .error failure := by
    rw [Workspace.checkFile, unread]
    rfl
  refine ⟨unchecked, fun requested settings output => ?_⟩
  rw [compileFile, Workspace.prepare, unchecked]
  rfl

/-- A text with nothing in its way is written. -/
theorem exists_writeOutput (is_text : text.IsText) (clear : Unobstructed ws output) :
    ∃ after, Act.writeOutput text output ws = .ok () after := by
  have written := Act.ensures_writeOutput ws output text
  unfold Act.Ensures at written
  cases outcome : Act.writeOutput text output ws with
  | ok _ after => exact ⟨after, rfl⟩
  | error error after =>
    rw [outcome] at written
    rcases written with ⟨-, obstructed⟩ | ⟨fault, no_text, -⟩
    · exact absurd clear obstructed
    · exact absurd is_text (RawText.not_isText_iff.2 ⟨fault, no_text⟩)

theorem isText_of_writeOutput {after : Workspace} (h : Act.writeOutput text output ws = .ok () after) :
    text.IsText := by
  have written := Act.ensures_writeOutput ws output text
  rw [Act.Ensures, h] at written
  obtain ⟨file, -, -, is_text, -⟩ := written
  exact ⟨file, is_text⟩

end Stages

/-- **Files and texts agree.** Take a file that holds a text, a target or none, settings and an output.
The failures of lexing, parsing and checking are the same for compiling the file, for compiling the text
under the names of the files, and for checking the file, which has no others; whatever keeps the text
from being compiled keeps the file from being compiled. If the text is compiled and can be written, then
compiling the file gives that text, with the number of tests that checking finds, which is the number
of units.

A file without a text, because it cannot be read or because its bytes are no UTF-8, is an error of
lexing for checking and for compiling. A path that cannot be encoded or that holds a null character is
neither: it has a failure that is no compile error. -/
theorem compileFile_agrees_with_compile (ws : Workspace) (input : Path) :
    (∀ source, ws.Holds input source →
      (∀ failure, ws.checkFile input = .error failure → failure.FrontEnd) ∧
      ∀ requested settings output,
        (∀ failure, failure.FrontEnd →
          ((compileFile requested settings input output ws).1 = .error failure ↔
            compile requested settings (some input.name) (some output.name) source =
              .error failure) ∧
          (compile requested settings (some input.name) (some output.name) source = .error failure ↔
            ws.checkFile input = .error failure)) ∧
        (∀ failure,
          compile requested settings (some input.name) (some output.name) source = .error failure →
          compileFile requested settings input output ws = (.error failure, ws)) ∧
        ∀ text after,
          compile requested settings (some input.name) (some output.name) source = .ok text →
          Act.writeOutput text output ws = .ok () after →
          ∃ program header, ws.checkFile input = .ok program ∧
            compileFile requested settings input output ws =
              (.ok ⟨input, output, settings.targetFor requested, program.tests.length, text⟩,
                after) ∧
            text = RawText.ofText (String.ofList (Emit.written
              (Emit.documentLines (settings.targetFor requested) settings program header))) ∧
            (Emit.unitBlocks (settings.targetFor requested) settings program).length =
              program.tests.length) ∧
    ((∃ bytes, ws.contents input = .ok bytes ∧ ∀ text, Text.encodeUtf8 text ≠ bytes) →
      ∃ fault, FailsAlike ws input (.error (.unreadable input (.encoding fault))) ∧
        (CompileError.unreadable input (.encoding fault)).stage = .lex) ∧
    (∀ error, ws.contents input = .error error →
      Text.nameFault? input.text = none → .char '\x00' ∉ input.text →
      FailsAlike ws input (.error (.unreadable input (.file error))) ∧
        (CompileError.unreadable input (.file error)).stage = .lex) ∧
    (Text.nameFault? input.text = none → .char '\x00' ∈ input.text →
      FailsAlike ws input .nullPath) ∧
    ∀ fault, Text.nameFault? input.text = some fault → FailsAlike ws input (.unencodable fault) := by
  refine ⟨fun source holds => ?_, ?_, fun error unread encodable plain => ?_,
    fun encodable null => ?_, fun fault unencodable => ?_⟩
  · have read := holds.readSource
    have checked := checkFile_of_readSource read
    refine ⟨fun failure failed => frontEnd_of_analyze (checked.symm.trans failed),
      fun requested settings output => ⟨fun failure front => ⟨?_, ?_⟩, fun failure failed => ?_,
        fun text after compiled written => ?_⟩⟩
    · exact compileFile_eq_error_iff_compile read front
    · rw [checked]
      exact compile_eq_error_iff_analyze front
    · exact compileFile_of_compile_error read failed
    · obtain ⟨program, analyzed, generated, outcome⟩ := compileFile_of_compile_ok read compiled
      have made : Generates ws (settings.targetFor requested) settings input output text :=
        ⟨source, program, read, analyzed, generated⟩
      obtain ⟨file, rfl⟩ := isText_of_writeOutput written
      obtain ⟨name, named⟩ := made.isText_iff.1 ⟨file, rfl⟩
      rw [named] at generated
      obtain ⟨header, layout⟩ := exists_header_of_generate generated
      have stored : ws.store file output = (.ok (), after) := by
        rw [Workspace.store, written]
      rw [stored] at outcome
      exact ⟨program, header, checked.trans analyzed, outcome, congrArg RawText.ofText layout,
        length_unitBlocks _ settings program⟩
  · rintro ⟨bytes, found, none⟩
    obtain ⟨fault, unread⟩ := readSource_of_no_text found none
    exact ⟨fault, failsAlike_of_readSource unread, rfl⟩
  · have spelled : FileFault.ofSpelling? input.text = none := by
      rw [FileFault.ofSpelling?, encodable]
      exact if_neg fun null => plain (List.contains_iff_mem.1 null)
    exact ⟨failsAlike_of_readSource (readSource_of_unreadable unread spelled), rfl⟩
  · exact failsAlike_of_readSource (readSource_of_null encodable null)
  · exact failsAlike_of_readSource (readSource_of_unencodable unencodable)

/-- A comment and a test with a given character between them. -/
def commentAndTest (lineEnd : Char) : List Char :=
  "// é".toList ++ lineEnd ::
    "test a \x7b GET \"/\"; expect status = 200; expect body contains \"\"; \x7d".toList

/-- A source whose comment ends in a carriage return, and a file that is no UTF-8. -/
def returnsAndBytes : Workspace where
  entries := [
    ([[0x73]], .file (Text.encodeUtf8 (.ofList (commentAndTest '\r'))) 0o644),
    ([[0x62]], .file [0x2f, 0xc3, 0x28] 0o644)]

/-- As a text, the source is a comment without tests; in a file, it is a comment and a test. -/
theorem compileFile_agrees_with_compile_returns :
    analyze (.ofList (commentAndTest '\r')) = .error (.error (.structural .noTests)) ∧
    returnsAndBytes.Holds ⟨"", ["s"]⟩ (.ofList (commentAndTest '\n')) ∧
    (∃ text after,
      compile (some .java) {} (some (RawText.ofText "s")) (some (RawText.ofText "O.java"))
        (.ofList (commentAndTest '\n')) = .ok text ∧
      compileFile (some .java) {} ⟨"", ["s"]⟩ ⟨"", ["O.java"]⟩ returnsAndBytes =
        (.ok ⟨⟨"", ["s"]⟩, ⟨"", ["O.java"]⟩, .java, 1, text⟩, after)) ∧
    (∃ fault, FailsAlike returnsAndBytes ⟨"", ["b"]⟩
      (.error (.unreadable ⟨"", ["b"]⟩ (.encoding fault)))) ∧
    (∃ error, FailsAlike returnsAndBytes ⟨"", ["m"]⟩
      (.error (.unreadable ⟨"", ["m"]⟩ (.file error)))) ∧
    FailsAlike returnsAndBytes ⟨"", ["\x00"]⟩ .nullPath ∧
    FailsAlike returnsAndBytes ⟨"", [[.surrogate 0]]⟩ (.unencodable ⟨0, 0, 1⟩) := by
  have holds : returnsAndBytes.Holds ⟨"", ["s"]⟩ (.ofList (commentAndTest '\n')) :=
    ⟨.ofList (commentAndTest '\r'), rfl, congrArg String.ofList (by
      rw [String.toList_ofList]
      decide +kernel)⟩
  refine ⟨by decide +kernel, holds, ?_, ?_, ?_, ?_, ?_⟩
  · obtain ⟨-, agree⟩ := (compileFile_agrees_with_compile returnsAndBytes ⟨"", ["s"]⟩).1 _ holds
    obtain ⟨-, -, succeeds⟩ := agree (some .java) {} ⟨"", ["O.java"]⟩
    have succeeded : (compile (some .java) {} (some (RawText.ofText "s"))
        (some (RawText.ofText "O.java")) (.ofList (commentAndTest '\n'))).isOk := by
      decide +kernel
    have clear : Unobstructed returnsAndBytes ⟨"", ["O.java"]⟩ :=
      ⟨fun _ => rfl, ⟨[], by decide⟩, by decide, by decide +kernel, by decide⟩
    have counted : (analyze (.ofList (commentAndTest '\n'))).map (·.tests.length) = .ok 1 := by
      decide +kernel
    cases compiled : compile (some .java) {} (some (RawText.ofText "s"))
        (some (RawText.ofText "O.java")) (.ofList (commentAndTest '\n')) with
    | error failure =>
      rw [compiled] at succeeded
      cases succeeded
    | ok text =>
      obtain ⟨program, analyzed, generated⟩ := exists_of_bind_ok compiled
      have made : Generates returnsAndBytes _ {} ⟨"", ["s"]⟩ ⟨"", ["O.java"]⟩ text :=
        ⟨_, program, holds.readSource, analyzed, generated⟩
      obtain ⟨after, written⟩ := exists_writeOutput (made.isText_iff.2 ⟨"s", rfl⟩) clear
      obtain ⟨program, header, checked, outcome, -, -⟩ := succeeds text after compiled written
      rw [(checkFile_of_readSource holds.readSource).symm.trans checked] at counted
      have one : program.tests.length = 1 := Except.ok.inj counted
      exact ⟨text, after, rfl, one ▸ outcome⟩
  · obtain ⟨fault, fails, -⟩ :=
      (compileFile_agrees_with_compile returnsAndBytes ⟨"", ["b"]⟩).2.1
        ⟨[0x2f, 0xc3, 0x28], rfl,
          Text.exists_decode_error_iff.1 ⟨⟨1, 0xc3, 1, .invalidContinuation⟩, by decide +kernel⟩⟩
    exact ⟨fault, fails⟩
  · exact ⟨_, ((compileFile_agrees_with_compile returnsAndBytes ⟨"", ["m"]⟩).2.2.1
      _ rfl rfl (by decide)).1⟩
  · exact (compileFile_agrees_with_compile returnsAndBytes ⟨"", ["\x00"]⟩).2.2.2.1 rfl (by decide)
  · exact (compileFile_agrees_with_compile returnsAndBytes ⟨"", [[.surrogate 0]]⟩).2.2.2.2 _ rfl

end HttpSuite
