import HttpSuite.Proofs.Accepted
import HttpSuite.Proofs.Printing
import HttpSuite.Proofs.RawTexts
import HttpSuite.Proofs.Statements
import Mathlib.Data.List.Basic
import Mathlib.Data.List.Zip

/-!
# The lines of a generated file

A generated file is a header, one unit for each test and, for a class, a last closing line; every line
of it ends with a line feed (`text_eq_written`). The header depends on the settings and the names
alone. A unit is its opening lines, a line for each request, a line for each assertion and its closing
lines, unless an integer of an assertion cannot be written. Cutting the text at its line feeds therefore
cuts every line of it on its own (`splitLines_written`). The name of the source stands behind the title,
and what follows does not depend on it (`text_eq_afterName`).
-/

namespace HttpSuite.Emit

open Text (literal)

/-! ## Lines and text -/

/-- Lines as a file holds them, each ended by a line feed. -/
def written (lines : List String) : List Char :=
  lines.flatMap fun line => line.toList ++ ['\n']

/-- What stands before, between and after the line feeds of a text. -/
def splitLines (text : String) : List String :=
  (text.toList.splitOn '\n').map String.ofList

@[simp]
theorem written_nil : written [] = [] := rfl

@[simp]
theorem written_cons (line : String) (lines : List String) :
    written (line :: lines) = line.toList ++ '\n' :: written lines := by
  simp [written]

@[simp]
theorem written_append (front back : List String) :
    written (front ++ back) = written front ++ written back :=
  List.flatMap_append

theorem joinLines_written {lines : List String} (ne : lines ≠ []) :
    (joinLines lines).toList ++ ['\n'] = written lines := by
  induction lines with
  | nil => exact absurd rfl ne
  | cons line lines ih =>
    cases lines with
    | nil => simp [joinLines]
    | cons next lines =>
      have rest := ih (List.cons_ne_nil next lines)
      rw [joinLines] at rest ⊢
      rw [String.intercalate_cons_cons, written_cons, ← rest]
      simp

theorem splitLines_of_not_mem {line : String} (h : '\n' ∉ line.toList) :
    splitLines line = [line] := by
  simp [splitLines, List.splitOn_eq_singleton h]

/-- Written lines come apart again, except that a line may hold line feeds of its own. -/
theorem splitLines_written (lines : List String) :
    splitLines (String.ofList (written lines)) = lines.flatMap splitLines ++ [""] := by
  induction lines with
  | nil => rfl
  | cons line lines ih =>
    rw [splitLines, String.toList_ofList] at ih ⊢
    rw [written_cons, List.splitOn_append_cons_self, List.map_append, ih, List.flatMap_cons,
      List.append_assoc, splitLines]

theorem flatMap_splitLines {lines : List String} (h : ∀ line ∈ lines, '\n' ∉ line.toList) :
    lines.flatMap splitLines = lines := by
  induction lines with
  | nil => rfl
  | cons line lines ih =>
    rw [List.flatMap_cons, splitLines_of_not_mem (h line List.mem_cons_self),
      ih fun next hn => h next (List.mem_cons_of_mem line hn), List.singleton_append]

/-- Indentation of lines that are not empty. -/
theorem indent_eq_map {lines : List String} (h : ∀ line ∈ lines, line ≠ "") :
    indent lines 1 = lines.map ("    " ++ ·) := by
  refine List.map_congr_left fun line hline => ?_
  rw [if_neg (by simpa using h line hline)]
  rfl

/-! ## Joining the parts of a file -/

/-- The separator between two parts is a line feed and some empty lines. -/
theorem intercalate_written {separator : String} {blank : List String}
    (hs : separator.toList = '\n' :: written blank) {header : List String}
    {units : List (List String)} (header_ne : header ≠ []) (units_ne : ∀ unit ∈ units, unit ≠ []) :
    (separator.intercalate (joinLines header :: units.map joinLines)).toList ++ ['\n'] =
      written (header ++ units.flatMap (blank ++ ·)) := by
  induction units generalizing header with
  | nil => simp [joinLines_written header_ne]
  | cons unit units ih =>
    have rest := ih (units_ne unit List.mem_cons_self)
      fun next hn => units_ne next (List.mem_cons_of_mem unit hn)
    rw [List.map_cons, String.intercalate_cons_cons, String.toList_append, String.toList_append, hs,
      List.append_assoc, rest, List.append_assoc, List.cons_append, ← List.singleton_append,
      ← List.append_assoc, joinLines_written header_ne]
    simp

/-- A line whose last character is not a line feed. -/
def EndsInText (line : String) : Prop :=
  ∃ c, line.toList.getLast? = some c ∧ c ≠ '\n'

theorem EndsInText.append_left {line : String} (h : EndsInText line) (front : String) :
    EndsInText (front ++ line) := by
  obtain ⟨c, last, ne⟩ := h
  exact ⟨c, by rw [String.toList_append, List.getLast?_append, last, Option.some_or], ne⟩

theorem endsInText_of_not_mem {line : String} (ne : line ≠ "") (h : '\n' ∉ line.toList) :
    EndsInText line := by
  have chars_ne : line.toList ≠ [] := String.toList_eq_nil_iff.not.2 ne
  refine ⟨_, List.getLast?_eq_some_getLast chars_ne, ?_⟩
  intro last
  exact h (last ▸ List.getLast_mem chars_ne)

/-- No line feed is taken from a text whose last line ends in text, so one is added and no more. -/
theorem trim_written {front : List String} {last : String} (h : EndsInText last) {text : List Char}
    (ht : text ++ ['\n'] = written (front ++ [last])) :
    (text.reverse.dropWhile (· == '\n')).reverse ++ ['\n'] = written (front ++ [last]) := by
  obtain ⟨c, ends, ne⟩ := h
  obtain ⟨start, hstart⟩ := List.getLast?_eq_some_iff.1 ends
  have text_eq : text = written front ++ (start ++ [c]) := by
    rw [written_append, written_cons, written_nil, ← List.append_assoc, List.append_left_inj] at ht
    rw [ht, hstart]
  -- Seen from its end, the text starts with `c`, where the trimming stops at once.
  have last_eq : text.reverse = c :: (written front ++ start).reverse := by simp [text_eq]
  rw [last_eq, List.dropWhile_cons_of_neg (by simpa using ne), ← last_eq, List.reverse_reverse, ht]

theorem fileText_eq_written {separator : String} {blank : List String}
    (hs : separator.toList = '\n' :: written blank) {header : List String}
    {units : List (List String)} {footer : Option String} (header_ne : header ≠ [])
    (units_ne : ∀ unit ∈ units, unit ≠ []) {front : List String} {last : String}
    (lines : header ++ units.flatMap (blank ++ ·) ++ footer.toList = front ++ [last])
    (ends : EndsInText last) :
    fileText separator (joinLines header) (units.map joinLines) footer =
      String.ofList (written (header ++ units.flatMap (blank ++ ·) ++ footer.toList)) := by
  have body := intercalate_written hs header_ne units_ne
  rw [lines]
  refine congrArg String.ofList (trim_written ends ?_)
  rw [← lines, written_append, ← body]
  cases footer <;> simp

/-- If the header and every unit end in text, then so does what they make up. -/
theorem exists_last_of_units {blank header : List String} {units : List (List String)}
    (header_last : ∃ front last, header = front ++ [last] ∧ EndsInText last)
    (units_ne : ∀ unit ∈ units, unit ≠ [])
    (units_end : ∀ unit ∈ units, ∀ line ∈ unit, EndsInText line) :
    ∃ front last, header ++ units.flatMap (blank ++ ·) = front ++ [last] ∧ EndsInText last := by
  rcases List.eq_nil_or_concat' units with rfl | ⟨others, unit, rfl⟩
  · simpa using header_last
  have mem : unit ∈ others ++ [unit] := List.mem_append_right others List.mem_cons_self
  obtain ⟨start, last, rfl⟩ := (List.eq_nil_or_concat' unit).resolve_left (units_ne unit mem)
  refine ⟨header ++ (others.flatMap (blank ++ ·) ++ (blank ++ start)), last, by simp, ?_⟩
  exact units_end _ mem last (List.mem_append_right start List.mem_cons_self)

/-! ## The parts of a file -/

/-- The lines before the first unit. -/
def headerLines (target : Target) (settings : Settings) (sourceName : Option String)
    (outputName : Option RawText) : Except Failure (List String) :=
  match target with
  | .python => .ok (PythonModule.header settings sourceName)
  | .java => do
    let millis ← JavaClass.milliseconds settings.generation.timeout
    let name ← JavaClass.className settings.targets.java outputName
    return JavaClass.header settings sourceName millis name

/-- The empty lines that set a unit apart from what stands before it. -/
def blankLines : Target → List String
  | .python => ["", ""]
  | .java => [""]

/-- The lines of a unit before its first statement. -/
def openingLines (target : Target) (settings : Settings) (name : String) : List String :=
  match target with
  | .python => ["def " ++ name ++ "(" ++ settings.targets.python.fixtureName ++ "):"]
  | .java =>
    ["    @Test", "    void " ++ name ++ "() throws Exception \x7b",
      "        HttpResponse<String> response;"]

/-- What stands before every statement of a unit. -/
def margin : Target → String
  | .python => "    "
  | .java => "        "

/-- The lines of a unit after its last statement. -/
def closingLines : Target → List String
  | .python => []
  | .java => ["    \x7d"]

/-- The line of a file after its last unit, if there is one. -/
def footer? : Target → Option String
  | .python => none
  | .java => some "\x7d"

/-- The statements of a test: one for each request and then one for each assertion, in order. -/
def statements (target : Target) (settings : Settings) (test : TestBlock) : List String :=
  test.requests.map (request target settings) ++ test.assertions.map (assertionLine target)

/-- The lines of one unit. -/
def unitLines (target : Target) (settings : Settings) (test : TestBlock) (name : String) :
    List String :=
  openingLines target settings name ++ (statements target settings test).map (margin target ++ ·) ++
    closingLines target

/-- The units of a program, in the order of its tests and under their unit names. -/
def unitBlocks (target : Target) (settings : Settings) (program : Program) : List (List String) :=
  List.zipWith (unitLines target settings) program.tests (unitNames (program.tests.map (·.name)))

/-- All lines of a file whose header is given. -/
def documentLines (target : Target) (settings : Settings) (program : Program)
    (header : List String) : List String :=
  header ++ (unitBlocks target settings program).flatMap (blankLines target ++ ·) ++
    (footer? target).toList

/-! ## Tests that can be written -/

/-- The assertions of some tests can be written. -/
def AllWritable (target : Target) (tests : List TestBlock) : Prop :=
  ∀ test ∈ tests, ∀ node ∈ test.assertions, Writable target node

instance (target : Target) (tests : List TestBlock) : Decidable (AllWritable target tests) :=
  inferInstanceAs (Decidable (∀ test ∈ tests, ∀ node ∈ test.assertions, Writable target node))

/-- If every item is written or fails in one way, then so does a list of them. -/
theorem mapM_eq {α β ε : Type} {write : α → Except ε β} {good : α → Prop} [DecidablePred good]
    {line : α → β} {failure : ε}
    (single : ∀ item, write item = if good item then .ok (line item) else .error failure)
    (items : List α) :
    items.mapM write =
      if ∀ item ∈ items, good item then .ok (items.map line) else .error failure := by
  induction items with
  | nil => simp [pure, Except.pure]
  | cons item items ih =>
    rw [List.mapM_cons, single, ih]
    by_cases head : good item
    · by_cases tail : ∀ other ∈ items, good other
      · rw [if_pos head, if_pos tail, if_pos (List.forall_mem_cons.2 ⟨head, tail⟩)]
        rfl
      · rw [if_pos head, if_neg tail, if_neg fun all => tail (List.forall_mem_cons.1 all).2]
        rfl
    · rw [if_neg head, if_neg fun all => head (List.forall_mem_cons.1 all).1]
      rfl

/-- The integers of a parsed program are not too long: they were read. -/
theorem allWritable_of_parse {source : String} {program : Program}
    (parsed : parse source = .ok program) (target : Target) : AllWritable target program.tests := by
  intro test test_mem node node_mem
  have expressible := (expressible_of_parse parsed test test_mem).assertions node node_mem
  have fits {n : Int} (h : Denotable n) : Fits n := by
    obtain ⟨k, rfl, bound⟩ := denotable_iff.1 h
    exact Number.digitCount_le_iff.2 bound
  cases node with
  | statusEquals code => exact .inr (fits expressible)
  | statusInRange min max => exact ⟨fits expressible.1, fits expressible.2⟩
  | bodyContains | headerEquals => trivial

/-! ## The text of a file -/

theorem length_unitNamesFrom (taken names : List String) :
    (unitNamesFrom taken names).length = names.length := by
  induction names generalizing taken with
  | nil => rfl
  | cons name names ih => rw [unitNamesFrom, List.length_cons, ih, List.length_cons]

theorem length_unitNames (names : List String) : (unitNames names).length = names.length :=
  length_unitNamesFrom [] names

/-- Every test has a unit name. -/
theorem map_fst_zip_unitNames (program : Program) :
    (program.tests.zip (unitNames (program.tests.map (·.name)))).map Prod.fst = program.tests := by
  apply List.map_fst_zip
  rw [length_unitNames, List.length_map]

theorem statement_ne_empty {target : Target} {settings : Settings} {test : TestBlock} {line : String}
    (h : line ∈ statements target settings test) : line ≠ "" := by
  rcases List.mem_append.1 h with h | h
  · obtain ⟨node, -, rfl⟩ := List.mem_map.1 h
    exact request_ne_empty target settings node
  · obtain ⟨node, -, rfl⟩ := List.mem_map.1 h
    exact assertionLine_ne_empty target node

/-- One unit, made from a test and the unit's name. -/
def unitText (target : Target) (settings : Settings) (test : TestBlock) (name : String) :
    Except Failure String :=
  match target with
  | .python => PythonModule.unit settings.targets.python.fixtureName test name
  | .java => JavaClass.unit test name

theorem indent_statements (target : Target) (settings : Settings) (test : TestBlock) :
    indent (statements target settings test) 1 = (statements target settings test).map ("    " ++ ·) :=
  indent_eq_map fun _ => statement_ne_empty

theorem pythonUnit_eq (settings : Settings) (test : TestBlock) (name : String) :
    joinLines (("def " ++ name ++ "(" ++ settings.targets.python.fixtureName ++ "):") ::
      indent (statements .python settings test) 1) =
        joinLines (unitLines .python settings test name) := by
  rw [indent_statements, unitLines, closingLines, List.append_nil]
  rfl

theorem javaUnit_eq (settings : Settings) (test : TestBlock) (name : String) :
    joinLines (indent (["@Test", "void " ++ name ++ "() throws Exception \x7b",
      "    HttpResponse<String> response;"] ++ indent (statements .java settings test) 1 ++
        ["\x7d"]) 1) = joinLines (unitLines .java settings test name) := by
  have twice : ((statements .java settings test).map ("    " ++ ·)).map ("    " ++ ·) =
      (statements .java settings test).map ("        " ++ ·) := by
    rw [List.map_map]
    exact List.map_congr_left fun line _ => String.append_assoc.symm
  have method : "    " ++ ("void " ++ name ++ "() throws Exception \x7b") =
      "    void " ++ name ++ "() throws Exception \x7b" := by
    rw [← String.append_assoc, ← String.append_assoc]
    rfl
  rw [indent_statements, indent_eq_map]
  · rw [List.map_append, List.map_append, twice, List.map_cons, List.map_cons, method]
    rfl
  · intro line hline
    simp only [List.mem_append, List.mem_cons, List.not_mem_nil, or_false, List.mem_map] at hline
    rcases hline with ((rfl | rfl | rfl) | ⟨statement, -, rfl⟩) | rfl <;> simp

/-- A unit is written as its lines, unless an assertion of its test cannot be written. -/
theorem unitText_eq (target : Target) (settings : Settings) (test : TestBlock) (name : String) :
    unitText target settings test name =
      if ∀ node ∈ test.assertions, Writable target node then
        .ok (joinLines (unitLines target settings test name)) else .error .digits := by
  have lines := mapM_eq (assertion_eq target) test.assertions
  cases target with
  | python =>
    change test.assertions.mapM PythonModule.assertion = _ at lines
    rw [unitText, PythonModule.unit, PythonModule.body, lines]
    by_cases good : ∀ node ∈ test.assertions, Writable .python node
    · rw [if_pos good, if_pos good]
      exact congrArg Except.ok (pythonUnit_eq settings test name)
    · rw [if_neg good, if_neg good]
      rfl
  | java =>
    change test.assertions.mapM JavaClass.assertion = _ at lines
    rw [unitText, JavaClass.unit, JavaClass.body, lines]
    by_cases good : ∀ node ∈ test.assertions, Writable .java node
    · rw [if_pos good, if_pos good]
      exact congrArg Except.ok (javaUnit_eq settings test name)
    · rw [if_neg good, if_neg good]
      rfl

/-- The units of a program as texts, in order. -/
def unitTexts (target : Target) (settings : Settings) (program : Program) :
    Except Failure (List String) :=
  match target with
  | .python => PythonModule.units settings program
  | .java => JavaClass.units program

theorem unitTexts_eq (target : Target) (settings : Settings) (program : Program) :
    unitTexts target settings program =
      if AllWritable target program.tests then
        .ok ((unitBlocks target settings program).map joinLines) else .error .digits := by
  have units : unitTexts target settings program =
      (program.tests.zip (unitNames (program.tests.map (·.name)))).mapM fun job =>
        unitText target settings job.1 job.2 := by
    cases target <;> rfl
  rw [units, mapM_eq fun job => unitText_eq target settings job.1 job.2]
  -- Every test has a name, so the pairs run through all tests.
  have tests : (∀ job ∈ program.tests.zip (unitNames (program.tests.map (·.name))),
      ∀ node ∈ job.1.assertions, Writable target node) ↔ AllWritable target program.tests := by
    rw [AllWritable, ← map_fst_zip_unitNames, List.forall_mem_map, map_fst_zip_unitNames]
  have blocks : (program.tests.zip (unitNames (program.tests.map (·.name)))).map
      (fun job => joinLines (unitLines target settings job.1 job.2)) =
        (unitBlocks target settings program).map joinLines := by
    rw [unitBlocks, List.map_zipWith, ← List.map_uncurry_zip_eq_zipWith]
    rfl
  simp only [tests, blocks]

/-- Every line of a module's unit ends in text, whatever the names are. -/
theorem endsInText_pythonUnit {settings : Settings} {test : TestBlock} {name line : String}
    (h : line ∈ unitLines .python settings test name) : EndsInText line := by
  rw [unitLines, closingLines, List.append_nil] at h
  rcases List.mem_append.1 h with h | h
  · rw [List.mem_singleton.1 h]
    exact EndsInText.append_left ⟨':', by decide, by decide⟩ _
  obtain ⟨statement, hs, rfl⟩ := List.mem_map.1 h
  refine EndsInText.append_left ?_ _
  rcases List.mem_append.1 hs with h | h
  · obtain ⟨node, -, rfl⟩ := List.mem_map.1 h
    -- The name of the fixture may hold line feeds here, so only the last bracket counts.
    refine ⟨')', List.getLast?_eq_some_iff.2 ⟨?_, ?_⟩, by decide⟩
    · exact (requestParts .python settings node).dropLast.flatMap Part.chars
    · rw [toList_request]
      simp [requestParts, Part.chars]
  · obtain ⟨node, -, rfl⟩ := List.mem_map.1 h
    exact endsInText_of_not_mem (assertionLine_ne_empty .python node)
      (newline_not_mem_assertionLine .python node)

theorem unitLines_ne_nil (target : Target) (settings : Settings) (test : TestBlock)
    (name : String) : unitLines target settings test name ≠ [] := by
  cases target <;> simp [unitLines, openingLines]

theorem exists_of_mem_unitBlocks {target : Target} {settings : Settings} {program : Program}
    {unit : List String} (h : unit ∈ unitBlocks target settings program) :
    ∃ test name, (test ∈ program.tests ∧ name ∈ unitNames (program.tests.map (·.name))) ∧
      unit = unitLines target settings test name := by
  rw [unitBlocks, ← List.map_uncurry_zip_eq_zipWith] at h
  obtain ⟨⟨test, name⟩, pair, rfl⟩ := List.mem_map.1 h
  exact ⟨test, name, List.of_mem_zip pair, rfl⟩

theorem unitBlock_ne_nil {target : Target} {settings : Settings} {program : Program} :
    ∀ unit ∈ unitBlocks target settings program, unit ≠ [] := by
  intro unit h
  obtain ⟨test, name, -, rfl⟩ := exists_of_mem_unitBlocks h
  exact unitLines_ne_nil target settings test name

/-- The last line of a file ends in text: it is the footer, a line of the last unit, or, without
tests, the last line of the header. -/
theorem exists_last_line {target : Target} {settings : Settings}
    {sourceName : Option String} {outputName : Option RawText} {header : List String}
    (program : Program) (h : headerLines target settings sourceName outputName = .ok header) :
    ∃ front last, documentLines target settings program header = front ++ [last] ∧
      EndsInText last := by
  cases target with
  | python =>
    obtain rfl := Except.ok.inj h
    have header_last : PythonModule.header settings sourceName =
        (PythonModule.header settings sourceName).dropLast ++ ["        yield client"] := rfl
    rw [documentLines, footer?, Option.toList_none, List.append_nil]
    refine exists_last_of_units ⟨_, _, header_last, 't', by decide, by decide⟩ unitBlock_ne_nil ?_
    intro unit hunit line hline
    obtain ⟨test, name, -, rfl⟩ := exists_of_mem_unitBlocks hunit
    exact endsInText_pythonUnit hline
  | java => exact ⟨_, "\x7d", rfl, '\x7d', by decide, by decide⟩

/-- A class has a header if it has a timeout and a name. -/
theorem exists_eq_header {settings : Settings} {sourceName : Option String}
    {outputName : Option RawText} {lines : List String}
    (h : headerLines .java settings sourceName outputName = .ok lines) :
    ∃ millis name, JavaClass.milliseconds settings.generation.timeout = .ok millis ∧
      JavaClass.className settings.targets.java outputName = .ok name ∧
        lines = JavaClass.header settings sourceName millis name := by
  rw [headerLines] at h
  cases converted : JavaClass.milliseconds settings.generation.timeout with
  | error failure =>
    rw [converted] at h
    cases h
  | ok millis =>
    cases chosen : JavaClass.className settings.targets.java outputName with
    | error failure =>
      rw [converted, chosen] at h
      cases h
    | ok name =>
      rw [converted, chosen] at h
      exact ⟨millis, name, rfl, rfl, (Except.ok.inj h).symm⟩

theorem headerLines_ne_nil {target : Target} {settings : Settings} {sourceName : Option String}
    {outputName : Option RawText} {header : List String}
    (h : headerLines target settings sourceName outputName = .ok header) : header ≠ [] := by
  cases target with
  | python =>
    obtain rfl := Except.ok.inj h
    exact List.cons_ne_nil _ _
  | java =>
    obtain ⟨millis, name, -, -, rfl⟩ := exists_eq_header h
    exact List.cons_ne_nil _ _

/-- What stands between the header and a unit, and between two units. -/
def separator : Target → String
  | .python => "\n\n\n"
  | .java => "\n\n"

/-- The units are made first, then the header. -/
theorem text_eq_fileText (target : Target) (settings : Settings) (sourceName : Option String)
    (outputName : Option RawText) (program : Program) :
    text target settings sourceName outputName program = (do
      let units ← unitTexts target settings program
      let header ← headerLines target settings sourceName outputName
      return fileText (separator target) (joinLines header) units (footer? target)) := by
  cases target with
  | python => rfl
  | java =>
    show JavaClass.text settings sourceName outputName program = _
    rw [JavaClass.text, headerLines, unitTexts]
    cases JavaClass.units program with
    | error failure => rfl
    | ok units =>
      cases JavaClass.milliseconds settings.generation.timeout with
      | error failure => rfl
      | ok millis => cases JavaClass.className settings.targets.java outputName <;> rfl

/-- **Layout.** The text of a file is its lines, each ended by a line feed. There is a text if all
assertions can be written, and then it depends on the header alone. -/
theorem text_eq_written (target : Target) (settings : Settings) (sourceName : Option String)
    (outputName : Option RawText) (program : Program) :
    text target settings sourceName outputName program =
      if AllWritable target program.tests then
        (headerLines target settings sourceName outputName).map fun header =>
          String.ofList (written (documentLines target settings program header))
      else .error .digits := by
  have blank : (separator target).toList = '\n' :: written (blankLines target) := by
    cases target <;> decide
  rw [text_eq_fileText, unitTexts_eq]
  by_cases good : AllWritable target program.tests
  · rw [if_pos good, if_pos good]
    cases made : headerLines target settings sourceName outputName with
    | error failure => rfl
    | ok header =>
      obtain ⟨front, last, lines, ends⟩ := exists_last_line program made
      exact congrArg Except.ok
        (fileText_eq_written blank (headerLines_ne_nil made) unitBlock_ne_nil lines ends)
  · rw [if_neg good, if_neg good]
    rfl

theorem text_eq_ok_iff {target : Target} {settings : Settings} {sourceName : Option String}
    {outputName : Option RawText} {program : Program} {file : String} :
    text target settings sourceName outputName program = .ok file ↔
      AllWritable target program.tests ∧
        ∃ header, headerLines target settings sourceName outputName = .ok header ∧
          file = String.ofList (written (documentLines target settings program header)) := by
  rw [text_eq_written]
  by_cases good : AllWritable target program.tests
  · rw [if_pos good]
    cases headerLines target settings sourceName outputName with
    | error failure => simp [Except.map]
    | ok header =>
      simp only [Except.map, Except.ok.injEq, good, true_and, exists_eq_left']
      exact eq_comm
  · simp [good]

/-! ## The name of the source -/

/-- The words behind the name of the source, to the end of its line. -/
def behindName : Target → String
  | .python => "."
  | .java => ". Do not edit by hand."

/-- The name of the source stands in the first line of the header and nowhere else. -/
theorem headerLines_eq (target : Target) (settings : Settings) (sourceName : Option String)
    (outputName : Option RawText) :
    headerLines target settings sourceName outputName =
      (headerLines target settings none outputName).map fun header =>
        (title target ++ origin sourceName ++ behindName target) :: header.tail := by
  cases target with
  | python => rfl
  | java =>
    rw [headerLines, headerLines]
    cases JavaClass.milliseconds settings.generation.timeout with
    | error failure => rfl
    | ok millis => cases JavaClass.className settings.targets.java outputName <;> rfl

/-- The lines of a file behind its first one. -/
def laterLines (target : Target) (settings : Settings) (outputName : Option RawText)
    (program : Program) : Except Failure (List String) :=
  if AllWritable target program.tests then
    (headerLines target settings none outputName).map fun header =>
      documentLines target settings program header.tail
  else .error .digits

/-- What stands in a file behind the name of its source. -/
def afterName (target : Target) (settings : Settings) (outputName : Option RawText)
    (program : Program) : Except Failure String :=
  (laterLines target settings outputName program).map fun lines =>
    behindName target ++ "\n" ++ String.ofList (written lines)

theorem text_eq_laterLines (target : Target) (settings : Settings) (sourceName : Option String)
    (outputName : Option RawText) (program : Program) :
    text target settings sourceName outputName program =
      (laterLines target settings outputName program).map fun lines =>
        String.ofList (written ((title target ++ origin sourceName ++ behindName target) :: lines)) := by
  rw [text_eq_written, laterLines, headerLines_eq]
  by_cases good : AllWritable target program.tests
  · rw [if_pos good, if_pos good]
    cases headerLines target settings none outputName <;> rfl
  · rw [if_neg good, if_neg good]
    rfl

theorem text_eq_afterName (target : Target) (settings : Settings) (sourceName : Option String)
    (outputName : Option RawText) (program : Program) :
    text target settings sourceName outputName program =
      (afterName target settings outputName program).map fun rest =>
        title target ++ origin sourceName ++ rest := by
  rw [text_eq_laterLines, afterName]
  cases laterLines target settings outputName program with
  | error failure => rfl
  | ok lines =>
    refine congrArg Except.ok (String.toList_inj.1 ?_)
    simp

/-- A name that is no text stands in the same place. -/
theorem document_eq_afterName (target : Target) (settings : Settings)
    (sourceName outputName : Option RawText) (program : Program) :
    document target settings sourceName outputName program =
      (afterName target settings outputName program).map fun rest =>
        RawText.ofText (title target) ++ rawOrigin sourceName ++ RawText.ofText rest := by
  rw [document, text_eq_afterName]
  cases afterName target settings outputName program with
  | error failure => rfl
  | ok rest =>
    refine congrArg Except.ok ?_
    have size : (title target).length = (RawText.ofText (title target)).length := by simp
    have empty : title target ++ origin none ++ rest = title target ++ rest := by simp [origin]
    beta_reduce
    rw [empty, RawText.ofText_append, size, List.take_left, List.drop_left]

theorem rawOrigin_ofText (sourceName : Option String) :
    rawOrigin (sourceName.map RawText.ofText) = RawText.ofText (origin sourceName) := by
  cases sourceName with
  | none => rfl
  | some name =>
    by_cases empty : name = ""
    · simp [empty, rawOrigin, origin]
    · simp [empty, rawOrigin, origin]

/-- The file for a source whose name is a text is a text. -/
theorem document_ofText (target : Target) (settings : Settings) (sourceName : Option String)
    (outputName : Option RawText) (program : Program) :
    document target settings (sourceName.map RawText.ofText) outputName program =
      (text target settings sourceName outputName program).map RawText.ofText := by
  rw [document_eq_afterName, text_eq_afterName, rawOrigin_ofText]
  cases afterName target settings outputName program with
  | error failure => rfl
  | ok rest =>
    refine congrArg Except.ok ?_
    rw [RawText.ofText_append, RawText.ofText_append]

/-- A file is a text exactly if the name of its source is one. -/
theorem isText_document_iff {target : Target} {settings : Settings} {name : RawText}
    {outputName : Option RawText} {program : Program} {file : RawText}
    (h : document target settings (some name) outputName program = .ok file) :
    file.IsText ↔ name.IsText := by
  have text (t : String) : (RawText.ofText t).IsText := ⟨t, rfl⟩
  rw [document_eq_afterName] at h
  cases made : afterName target settings outputName program with
  | error failure =>
    rw [made] at h
    cases h
  | ok rest =>
    rw [made] at h
    obtain rfl := Except.ok.inj h
    rw [RawText.isText_append_iff, RawText.isText_append_iff, and_iff_left (text _),
      and_iff_right (text _), rawOrigin]
    by_cases empty : name = []
    · subst empty
      rfl
    · rw [if_neg (by simpa using empty), RawText.isText_append_iff, and_iff_right (text _)]

end HttpSuite.Emit
