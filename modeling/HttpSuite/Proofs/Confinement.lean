import HttpSuite.Proofs.ReadBack
import HttpSuite.Proofs.Scanning
import Mathlib.Data.List.Basic

/-!
# Strings stay in their literals

The strings of a program (its paths, body texts and headers) and of the settings (the base address
and the default headers) reach a generated file only inside literals. Exchanging them gives a twin of
the file: the same code, with other contents in the same literals. Every function that writes code is
followed once, from the parts of a statement up to the whole file (`twin_document`).

This needs the names that stand in the code to hold no quote. Accepted settings see to that for the
fixture and the class, and scripts for the tests, since test names are identifiers there; a tree
built by other means may break it (`quote_in_name_leaks`).
-/

namespace HttpSuite

/-! ## Shapes and strings -/

/-- A request without its string. -/
def Request.shape (node : Request) : Request :=
  { node with path := "" }

/-- An assertion without its strings. -/
def Assertion.shape : Assertion → Assertion
  | .statusEquals code => .statusEquals code
  | .statusInRange min max => .statusInRange min max
  | .bodyContains _ => .bodyContains ""
  | .headerEquals _ _ => .headerEquals "" ""

/-- A test without its strings. -/
def TestBlock.shape (test : TestBlock) : TestBlock :=
  ⟨test.name, test.requests.map Request.shape, test.assertions.map Assertion.shape⟩

/-- A program without its strings. -/
def Program.shape (program : Program) : Program :=
  ⟨program.tests.map TestBlock.shape⟩

/-- Settings without the base address and the default headers, of which the number is kept. -/
def Settings.shape (settings : Settings) : Settings :=
  { settings with generation :=
    { settings.generation with
      baseUrl := "", headers := settings.generation.headers.map fun _ => ("", "") } }

/-- The strings of an assertion, in the order in which its statement holds them. A class repeats an
expected text in the message for its absence and names the value of a header first. -/
def Assertion.strings (target : Target) : Assertion → List String
  | .statusEquals _ => []
  | .statusInRange _ _ => []
  | .bodyContains text =>
    match target with
    | .python => [text]
    | .java => [text, "body does not contain " ++ text]
  | .headerEquals name value =>
    match target with
    | .python => [name, value]
    | .java => [value, name]

/-- The strings of a test. -/
def TestBlock.strings (target : Target) (test : TestBlock) : List String :=
  test.requests.flatMap (fun node => [node.path]) ++
    test.assertions.flatMap (Assertion.strings target)

/-- The strings of a program. -/
def Program.strings (target : Target) (program : Program) : List String :=
  program.tests.flatMap (TestBlock.strings target)

/-- The strings of the settings. -/
def Settings.strings (settings : Settings) : List String :=
  settings.generation.baseUrl ::
    settings.generation.headers.flatMap fun (name, value) => [name, value]

namespace Emit

open Text (decode literal literals marked outline segments Twin)

/-! ## Statements -/

/-- A part without its string. -/
def Part.shape : Part → Part
  | .code text => .code text
  | .fixed text => .fixed text
  | .user _ => .user ""

/-- The string of a part, if it has one. -/
def Part.strings : Part → List String
  | .user text => [text]
  | _ => []

/-- Parts of the same shape are written as twins. -/
theorem twin_parts {ps qs : List Part} (clean : ∀ part ∈ ps, part.Clean)
    (h : ps.map Part.shape = qs.map Part.shape) :
    Twin (ps.flatMap Part.chars) (qs.flatMap Part.chars) (ps.flatMap Part.strings)
      (qs.flatMap Part.strings) := by
  induction ps generalizing qs with
  | nil =>
    obtain rfl := List.map_eq_nil_iff.1 h.symm
    exact .nil
  | cons p ps ih =>
    obtain ⟨q, qs, rfl, head, tail⟩ := List.map_eq_cons_iff.1 h.symm
    have rest := ih (fun part hpart => clean part (List.mem_cons_of_mem p hpart)) tail.symm
    have first : Twin p.chars q.chars p.strings q.strings := by
      cases p <;> cases q <;> cases head
      · exact .of_code (clean _ List.mem_cons_self).2
      · exact .of_literal _
      · exact .of_user _ _
    exact first.append rest

/-- A constant text on both sides. -/
theorem twin_ofList {cs : List Char} (h : cs.all fun c => c != '\n' && c != '"') :
    Twin (String.ofList cs).toList (String.ofList cs).toList [] [] :=
  .of_code (plain_ofList h).2

section

variable (target : Target) {first second : Settings}

theorem twin_request (same : first.shape = second.shape)
    (fixture : Plain first.targets.python.fixtureName) {a b : Request}
    (h : a.shape = b.shape) :
    Twin (request target first a).toList (request target second b).toList [a.path] [b.path] := by
  have same_fixture : second.targets.python.fixtureName = first.targets.python.fixtureName :=
    congrArg (·.targets.python.fixtureName) same.symm
  have same_method : b.method = a.method := congrArg (·.method) h.symm
  have parts : (requestParts target first a).map Part.shape =
      (requestParts target second b).map Part.shape := by
    cases target <;> simp [requestParts, same_fixture, same_method, Part.shape]
  rw [toList_request, toList_request]
  exact twin_parts (clean_requestParts fixture target a) parts

theorem twin_assertion {a b : Assertion} (h : a.shape = b.shape) :
    Twin (assertionLine target a).toList (assertionLine target b).toList (a.strings target)
      (b.strings target) := by
  have parts : (assertionParts target a).map Part.shape =
      (assertionParts target b).map Part.shape := by
    cases a <;> cases b <;> cases h <;> cases target <;> rfl
  have strings : ∀ node : Assertion,
      (assertionParts target node).flatMap Part.strings = node.strings target := by
    intro node
    cases target <;> cases node <;> rfl
  rw [toList_assertionLine, toList_assertionLine, ← strings a, ← strings b]
  exact twin_parts (clean_assertionParts target a) parts

/-! ## Lines -/

theorem twin_line {line line' : String} {s t : List String} (h : Twin line.toList line'.toList s t) :
    Twin (written [line]) (written [line']) s t := by
  have newline : Twin ['\n'] ['\n'] [] [] := .of_code (by decide)
  simpa [written] using h.append newline

theorem twin_same_lines {lines : List String} (h : ∀ line ∈ lines, '"' ∉ line.toList) :
    Twin (written lines) (written lines) [] [] := by
  refine .of_code fun quote => ?_
  obtain ⟨line, hline, quote⟩ := List.mem_flatMap.1 quote
  rcases List.mem_append.1 quote with quote | quote
  · exact h line hline quote
  · exact absurd (List.mem_singleton.1 quote) (by decide)

/-- Lists of the same shape, written element by element. -/
theorem twin_flatMap {α β : Type} {shape : α → β} {f g : α → List Char} {u v : α → List String}
    {l l' : List α}
    (step : ∀ a ∈ l, ∀ b ∈ l', shape a = shape b → Twin (f a) (g b) (u a) (v b))
    (h : l.map shape = l'.map shape) :
    Twin (l.flatMap f) (l'.flatMap g) (l.flatMap u) (l'.flatMap v) := by
  induction l generalizing l' with
  | nil =>
    obtain rfl := List.map_eq_nil_iff.1 h.symm
    exact .nil
  | cons a l ih =>
    obtain ⟨b, l', rfl, head, tail⟩ := List.map_eq_cons_iff.1 h.symm
    have rest := ih (fun c hc d hd =>
      step c (List.mem_cons_of_mem a hc) d (List.mem_cons_of_mem b hd)) tail.symm
    exact (step a List.mem_cons_self b List.mem_cons_self head.symm).append rest

theorem twin_margin {line line' : String} {s t : List String}
    (h : Twin line.toList line'.toList s t) :
    Twin (written [margin target ++ line]) (written [margin target ++ line']) s t := by
  have indented : Twin (margin target).toList (margin target).toList [] [] :=
    .of_code (by cases target <;> decide)
  apply twin_line
  rw [String.toList_append, String.toList_append]
  exact indented.append h

theorem written_map {α : Type} (f : α → String) (l : List α) :
    written (l.map f) = l.flatMap fun a => written [f a] := by
  rw [written, List.flatMap_map]
  simp [written]

theorem twin_statements (same : first.shape = second.shape)
    (fixture : Plain first.targets.python.fixtureName) {a b : TestBlock}
    (h : a.shape = b.shape) :
    Twin (written ((statements target first a).map (margin target ++ ·)))
      (written ((statements target second b).map (margin target ++ ·)))
      (a.strings target) (b.strings target) := by
  have requests : a.requests.map Request.shape = b.requests.map Request.shape :=
    congrArg (·.requests) h
  have assertions : a.assertions.map Assertion.shape = b.assertions.map Assertion.shape :=
    congrArg (·.assertions) h
  simp only [statements, List.map_append, written_append, List.map_map, written_map]
  refine .append (twin_flatMap (fun _ _ _ _ h => ?_) requests)
    (twin_flatMap (fun _ _ _ _ h => ?_) assertions)
  · exact twin_margin target (twin_request target same fixture h)
  · exact twin_margin target (twin_assertion target h)

theorem twin_unit (same : first.shape = second.shape)
    (fixture : Plain first.targets.python.fixtureName) {a b : TestBlock} {name : String}
    (hname : '"' ∉ name.toList) (h : a.shape = b.shape) :
    Twin (written (blankLines target ++ unitLines target first a name))
      (written (blankLines target ++ unitLines target second b name))
      (a.strings target) (b.strings target) := by
  have same_fixture : second.targets.python.fixtureName = first.targets.python.fixtureName :=
    congrArg (·.targets.python.fixtureName) same.symm
  have opening : openingLines target second name = openingLines target first name := by
    cases target <;> simp [openingLines, same_fixture]
  have before : ∀ line ∈ blankLines target ++ openingLines target first name, '"' ∉ line.toList := by
    cases target <;> simp [blankLines, openingLines, hname, fixture.2]
  have after : ∀ line ∈ closingLines target, '"' ∉ line.toList := by
    cases target <;> simp [closingLines]
  have parts := ((twin_same_lines before).append (twin_statements target same fixture h)).append
    (twin_same_lines after)
  rw [unitLines, unitLines, opening]
  simpa using parts

theorem written_unitBlocks (settings : Settings) (program : Program) :
    written ((unitBlocks target settings program).flatMap (blankLines target ++ ·)) =
      (program.tests.zip (unitNames (program.tests.map (·.name)))).flatMap fun pair =>
        written (blankLines target ++ unitLines target settings pair.1 pair.2) := by
  rw [unitBlocks, ← List.map_uncurry_zip_eq_zipWith, List.flatMap_map, written, List.flatMap_assoc]
  rfl

theorem strings_eq_flatMap_zip (program : Program) :
    program.strings target = (program.tests.zip (unitNames (program.tests.map (·.name)))).flatMap
      fun pair => pair.1.strings target := by
  rw [Program.strings]
  nth_rewrite 1 [← map_fst_zip_unitNames program]
  rw [List.flatMap_map]

theorem twin_units (same : first.shape = second.shape)
    (fixture : Plain first.targets.python.fixtureName) {p q : Program}
    (names : ∀ test ∈ p.tests, '"' ∉ test.name.toList) (h : p.shape = q.shape) :
    Twin (written ((unitBlocks target first p).flatMap (blankLines target ++ ·)))
      (written ((unitBlocks target second q).flatMap (blankLines target ++ ·)))
      (p.strings target) (q.strings target) := by
  have tests : p.tests.map TestBlock.shape = q.tests.map TestBlock.shape := congrArg (·.tests) h
  -- Unit names depend on the names of the tests alone, so both files use the same ones.
  have same_names : q.tests.map (·.name) = p.tests.map (·.name) :=
    map_eq_map_of_forall (fun a _ b _ h => congrArg (·.name) h) tests.symm
  have pairs : (p.tests.zip (unitNames (p.tests.map (·.name)))).map (Prod.map TestBlock.shape id) =
      (q.tests.zip (unitNames (q.tests.map (·.name)))).map (Prod.map TestBlock.shape id) := by
    rw [← List.zip_map_left, ← List.zip_map_left, tests, same_names]
  rw [written_unitBlocks, written_unitBlocks, strings_eq_flatMap_zip, strings_eq_flatMap_zip]
  refine twin_flatMap ?_ pairs
  rintro ⟨a, name⟩ ha ⟨b, name'⟩ - shape
  obtain ⟨same_test, rfl⟩ := Prod.mk.inj shape
  have hname := not_mem_unitNames (by decide) (by decide) names name (List.of_mem_zip ha).2
  exact twin_unit target same fixture hname same_test

end

/-! ## Numbers of the settings -/

section

variable {d : Char} {digits : List Char}

theorem not_mem_positional (zero : d ≠ '0') (point : d ≠ '.') (h : d ∉ digits) (exponent : Int) :
    d ∉ Number.positional digits exponent := by
  rw [Number.positional]
  split
  · simp [h, zero, point, List.mem_replicate]
  · intro hd
    have padded : d ∉ List.replicate (exponent.natAbs + 1 - digits.length) '0' ++ digits := by
      simp [h, zero, List.mem_replicate]
    rcases List.mem_append.1 hd with hd | hd
    · exact padded (List.mem_of_mem_take hd)
    · rcases List.mem_cons.1 hd with hd | hd
      · exact point hd
      · exact padded (List.mem_of_mem_drop hd)

theorem not_mem_scientific (point : d ≠ '.') (h : d ∉ digits) : d ∉ Number.scientific digits := by
  cases digits with
  | nil => exact h
  | cons first rest =>
    cases rest with
    | nil => exact h
    | cons next rest => simpa [Number.scientific, point] using h

end

section

variable {d : Char} (digit : d.isDigit = false)
include digit

theorem not_mem_toDigits (n : Nat) : d ∉ Nat.toDigits 10 n := by
  intro h
  have isDigit := Nat.isDigit_of_mem_toDigits (by decide) (by decide) h
  exact Bool.false_ne_true (digit.symm.trans isDigit)

theorem not_mem_exponentPart (zero : d ≠ '0') (mark : d ∉ ['e', '+', '-']) (width : Nat)
    (exponent : Int) : d ∉ (Number.exponentPart width exponent).toList := by
  simp only [List.mem_cons, List.not_mem_nil, or_false, not_or] at mark
  rw [Number.exponentPart]
  split <;> simp [List.mem_replicate, not_mem_toDigits digit, zero, mark]

/-- A number is written with digits, a point, signs, and the letters of an exponent and of what is not
finite. -/
theorem not_mem_number (mark : d ∉ ['e', '+', '-', '.', 'i', 'n', 'f', 'a'])
    (value : Number.Binary64) : d ∉ (Number.plain.text value).toList := by
  have zero : d ≠ '0' := by
    rintro rfl
    exact absurd digit (by decide)
  have scale : d ∉ ['e', '+', '-'] := fun hd => mark (List.mem_append_left _ hd)
  simp only [List.mem_cons, List.not_mem_nil, or_false, not_or] at mark
  obtain ⟨-, -, minus, point, i, n, f, a⟩ := mark
  cases value with
  | nan => simp [Number.Layout.text, Number.plain, n, a]
  | infinite negative => cases negative <;> simp [Number.Layout.text, Number.plain, minus, i, n, f]
  | finite negative mantissa exponent =>
    have sign : d ∉ (if negative then "-" else "").toList := by cases negative <;> simp [minus]
    have number := not_mem_toDigits digit
    simp only [Number.Layout.text]
    split
    · simp [sign, zero, point]
    · split
      · simp [sign, not_mem_positional zero point (number _)]
      · simp [sign, not_mem_scientific point (number _), not_mem_exponentPart digit zero scale]

end

/-! ## Headers of files -/

section

variable {first second : Settings}

/-- The text that a module starts with, between its quotes. -/
def docstring : String :=
  "HTTP tests generated by testlang.\n\nDo not edit by hand; regenerate with `testlang compile`.\n"

/-- Three quotes are an empty literal and the start of the next one, or the end of one and an empty
literal. -/
theorem written_docstring :
    written ["\"\"\"HTTP tests generated by testlang.", "",
      "Do not edit by hand; regenerate with `testlang compile`.", "\"\"\""] =
    '"' :: ([] ++ '"' :: ('"' :: (docstring.toList ++ '"' :: ('"' :: ([] ++ '"' :: ['\n']))))) := by
  rw [written_cons, String.toList_ofList, written_cons, String.toList_ofList, written_cons,
    String.toList_ofList, written_cons, String.toList_ofList, docstring, String.toList_ofList]
  rfl

theorem closed_docstring : Text.Closed docstring.toList := by
  have plain : docstring.toList.all fun c => c != '"' && c != '\\' := by
    rw [docstring, String.toList_ofList]
    rfl
  refine Text.closed_of_forall fun c hc => ?_
  simpa using List.all_eq_true.1 plain c hc

theorem twin_docstring :
    Twin (written ["\"\"\"HTTP tests generated by testlang.", "",
        "Do not edit by hand; regenerate with `testlang compile`.", "\"\"\""])
      (written ["\"\"\"HTTP tests generated by testlang.", "",
        "Do not edit by hand; regenerate with `testlang compile`.", "\"\"\""]) [] [] := by
  rw [written_docstring]
  exact .fixed .nil (.fixed closed_docstring (.fixed .nil (.code (by decide) .nil)))

/-- Entries with commas between them. -/
theorem twin_intercalate {α : Type} {f : α → String} {u : α → List String}
    (entry : ∀ x y, Twin (f x).toList (f y).toList (u x) (u y)) {l l' : List α}
    (h : l.length = l'.length) :
    Twin (", ".intercalate (l.map f)).toList (", ".intercalate (l'.map f)).toList
      (l.flatMap u) (l'.flatMap u) := by
  induction l generalizing l' with
  | nil =>
    obtain rfl := List.eq_nil_of_length_eq_zero h.symm
    exact .nil
  | cons x l ih =>
    obtain ⟨y, l', rfl⟩ := List.exists_cons_of_length_eq_add_one h.symm
    have rest := ih (Nat.succ.inj h)
    cases l with
    | nil =>
      obtain rfl := List.eq_nil_of_length_eq_zero (Nat.succ.inj h).symm
      simpa using entry x y
    | cons x' l =>
      obtain ⟨y', l', rfl⟩ := List.exists_cons_of_length_eq_add_one (Nat.succ.inj h).symm
      have comma : Twin ", ".toList ", ".toList [] [] := .of_code (by decide)
      have joined := ((entry x y).append comma).append rest
      simpa [String.intercalate_cons_cons] using joined

theorem twin_cons {line line' : String} {lines lines' s t u v : List String}
    (head : Twin line.toList line'.toList s t) (tail : Twin (written lines) (written lines') u v) :
    Twin (written (line :: lines)) (written (line' :: lines')) (s ++ u) (t ++ v) := by
  rw [← List.singleton_append, written_append, ← List.singleton_append (l := lines'), written_append]
  exact (twin_line head).append tail

theorem twin_cons_same {line : String} {lines lines' s t : List String} (head : '"' ∉ line.toList)
    (tail : Twin (written lines) (written lines') s t) :
    Twin (written (line :: lines)) (written (line :: lines')) s t :=
  twin_cons (.of_code head) tail

theorem twin_cons_ofList {cs : List Char} {lines lines' s t : List String}
    (head : cs.all fun c => c != '\n' && c != '"')
    (tail : Twin (written lines) (written lines') s t) :
    Twin (written (String.ofList cs :: lines)) (written (String.ofList cs :: lines')) s t :=
  twin_cons (twin_ofList head) tail

theorem twin_cons_code {line line' : String} {lines lines' s t : List String}
    (head : Twin line.toList line'.toList s t) (tail : Twin (written lines) (written lines') [] []) :
    Twin (written (line :: lines)) (written (line' :: lines')) s t := by
  have both := twin_cons head tail
  rwa [List.append_nil, List.append_nil] at both

theorem twin_pythonHeader (same : first.shape = second.shape)
    (fixture : Plain first.targets.python.fixtureName) :
    Twin (written (PythonModule.header first none)) (written (PythonModule.header second none))
      first.strings second.strings := by
  have same_fixture : second.targets.python.fixtureName = first.targets.python.fixtureName :=
    congrArg (·.targets.python.fixtureName) same.symm
  have same_timeout : second.generation.timeout = first.generation.timeout :=
    congrArg (·.generation.timeout) same.symm
  have count : first.generation.headers.length = second.generation.headers.length := by
    simpa [Settings.shape] using congrArg (·.generation.headers.length) same
  have address : Twin ("BASE_URL = " ++ literal first.generation.baseUrl).toList
      ("BASE_URL = " ++ literal second.generation.baseUrl).toList [first.generation.baseUrl]
      [second.generation.baseUrl] := by
    rw [String.toList_append, String.toList_append]
    exact (twin_ofList rfl).append (.of_user _ _)
  have timeout : Twin ("TIMEOUT = " ++ Number.plain.text first.generation.timeout).toList
      ("TIMEOUT = " ++ Number.plain.text second.generation.timeout).toList [] [] := by
    rw [same_timeout]
    exact .of_code (by simp [not_mem_number])
  have headers : Twin
      ("DEFAULT_HEADERS = \x7b" ++ ", ".intercalate (first.generation.headers.map
        fun (name, value) => literal name ++ ": " ++ literal value) ++ "\x7d").toList
      ("DEFAULT_HEADERS = \x7b" ++ ", ".intercalate (second.generation.headers.map
        fun (name, value) => literal name ++ ": " ++ literal value) ++ "\x7d").toList
      (first.generation.headers.flatMap fun (name, value) => [name, value])
      (second.generation.headers.flatMap fun (name, value) => [name, value]) := by
    have entry : ∀ x y : String × String, Twin (literal x.1 ++ ": " ++ literal x.2).toList
        (literal y.1 ++ ": " ++ literal y.2).toList [x.1, x.2] [y.1, y.2] := by
      intro x y
      simp only [String.toList_append]
      exact ((Twin.of_user x.1 y.1).append (twin_ofList rfl)).append (.of_user x.2 y.2)
    have opening : Twin "DEFAULT_HEADERS = \x7b".toList "DEFAULT_HEADERS = \x7b".toList [] [] :=
      twin_ofList rfl
    have closing : Twin "\x7d".toList "\x7d".toList [] [] := twin_ofList rfl
    have line := (opening.append (twin_intercalate entry count)).append closing
    simpa only [String.toList_append, List.append_nil, List.nil_append] using line
  have fixture_line : Twin ("def " ++ first.targets.python.fixtureName ++ "():").toList
      ("def " ++ second.targets.python.fixtureName ++ "():").toList [] [] := by
    rw [same_fixture]
    exact .of_code (((plain_ofList rfl).append fixture).append (plain_ofList rfl)).2
  -- One literal spans the first four lines, so these are taken together and the others one by one.
  have start : ∀ settings, PythonModule.header settings none =
      ["\"\"\"HTTP tests generated by testlang.", "",
        "Do not edit by hand; regenerate with `testlang compile`.", "\"\"\""] ++
      (PythonModule.header settings none).drop 4 := fun _ => rfl
  rw [start first, start second, written_append, written_append]
  refine twin_docstring.append ?_
  iterate 4 refine twin_cons_ofList rfl ?_
  refine twin_cons address (twin_cons timeout ?_)
  refine twin_cons_code headers ?_
  iterate 3 refine twin_cons_ofList rfl ?_
  refine twin_cons fixture_line ?_
  iterate 2 refine twin_cons_ofList rfl ?_
  exact .nil

theorem twin_javaHeader (same : first.shape = second.shape)
    (package : ∀ name ∈ first.targets.java.package, '"' ∉ name.toList) (millis : Int) {name : String}
    (hname : '"' ∉ name.toList) :
    Twin (written (JavaClass.header first none millis name))
      (written (JavaClass.header second none millis name)) first.strings second.strings := by
  have same_package : second.targets.java.package = first.targets.java.package :=
    congrArg (·.targets.java.package) same.symm
  have same_headers : first.generation.headers.map (fun _ => ("", "")) =
      second.generation.headers.map fun _ => ("", "") := congrArg (·.generation.headers) same
  have packages : ∀ line ∈ JavaClass.packageLines first.targets.java.package,
      '"' ∉ line.toList := by
    cases given : first.targets.java.package with
    | none => simp [JavaClass.packageLines]
    | some text =>
      have free := package text given
      by_cases blank : text = "" <;> simp [JavaClass.packageLines, blank, free]
  have named : '"' ∉ ("public class " ++ name ++ " \x7b").toList := by simp [hname]
  have timeout : Plain ("    static final Duration TIMEOUT = Duration.ofMillis(" ++
      toString millis ++ ");") :=
    ((plain_ofList rfl).append plain_toString).append (plain_ofList rfl)
  have comment : Plain (JavaClass.title ++ origin none ++ ". Do not edit by hand.") :=
    ((plain_ofList rfl).append (plain_ofList rfl)).append (plain_ofList rfl)
  have address : Twin ("    static final String BASE_URL = " ++ literal first.generation.baseUrl ++
      ";").toList ("    static final String BASE_URL = " ++ literal second.generation.baseUrl ++
      ";").toList [first.generation.baseUrl] [second.generation.baseUrl] := by
    simp only [String.toList_append]
    exact ((twin_ofList rfl).append (.of_user _ _)).append (twin_ofList rfl)
  have entry : ∀ x y : String × String, Twin
      (written ["        DEFAULT_HEADERS.put(" ++ literal x.1 ++ ", " ++ literal x.2 ++ ");"])
      (written ["        DEFAULT_HEADERS.put(" ++ literal y.1 ++ ", " ++ literal y.2 ++ ");"])
      [x.1, x.2] [y.1, y.2] := by
    intro x y
    apply twin_line
    simp only [String.toList_append]
    exact ((((twin_ofList rfl).append (.of_user x.1 y.1)).append (twin_ofList rfl)).append
      (.of_user x.2 y.2)).append (twin_ofList rfl)
  have strings : ∀ settings : Settings, settings.strings =
      [] ++ [] ++ [] ++ [settings.generation.baseUrl] ++
        (settings.generation.headers.flatMap fun (name, value) => [name, value]) ++ [] := by
    simp [Settings.strings]
  simp only [JavaClass.header, written_append, written_map, same_package]
  rw [strings first, strings second]
  refine ((((Twin.append ?comment (twin_same_lines packages)).append ?imports).append ?fields).append
    ?headers).append ?methods
  case comment => exact twin_cons_same comment.2 (twin_cons_ofList rfl .nil)
  case imports =>
    rw [JavaClass.imports]
    iterate 13 refine twin_cons_ofList rfl ?_
    exact .nil
  case fields =>
    refine twin_cons_ofList rfl (twin_cons_same named (twin_cons_code address ?_))
    refine twin_cons_same timeout.2 ?_
    iterate 5 refine twin_cons_ofList rfl ?_
    exact .nil
  case headers => exact twin_flatMap (fun x _ y _ _ => entry x y) same_headers
  case methods =>
    iterate 10 refine twin_cons_ofList rfl ?_
    exact .nil

/-- Both headers exist and are twins, or both are missing for the same reason. -/
theorem twin_headerLines (target : Target) (accepted : first.Accepted)
    (same : first.shape = second.shape)
    (package : ∀ name ∈ first.targets.java.package, '"' ∉ name.toList)
    (outputName : Option RawText) :
    (∃ failure, headerLines target first none outputName = .error failure ∧
      headerLines target second none outputName = .error failure) ∨
    ∃ header header', headerLines target first none outputName = .ok header ∧
      headerLines target second none outputName = .ok header' ∧
      Twin (written header) (written header') first.strings second.strings := by
  cases target with
  | python =>
    exact .inr ⟨_, _, rfl, rfl, twin_pythonHeader same (plain_fixtureName accepted)⟩
  | java =>
    have same_timeout : second.generation.timeout = first.generation.timeout :=
      congrArg (·.generation.timeout) same.symm
    have same_options : second.targets.java = first.targets.java :=
      congrArg (·.targets.java) same.symm
    simp only [headerLines, same_timeout, same_options]
    cases JavaClass.milliseconds first.generation.timeout with
    | error failure => exact .inl ⟨failure, rfl, rfl⟩
    | ok millis =>
      cases named : JavaClass.className first.targets.java outputName with
      | error failure => exact .inl ⟨failure, rfl, rfl⟩
      | ok name =>
        have hname : '"' ∉ name.toList := not_mem_of_isJavaName
          (accepted.isJavaName_className named) (by decide) (by decide) (by decide)
        exact .inr ⟨_, _, rfl, rfl, twin_javaHeader same package millis hname⟩

theorem twin_document (target : Target) (accepted : first.Accepted)
    (same : first.shape = second.shape) {p q : Program}
    (names : ∀ test ∈ p.tests, '"' ∉ test.name.toList) (h : p.shape = q.shape)
    {header header' : List String}
    (headers : Twin (written header) (written header') first.strings second.strings) :
    Twin (written (documentLines target first p header))
      (written (documentLines target second q header'))
      (first.strings ++ p.strings target) (second.strings ++ q.strings target) := by
  have fixture := plain_fixtureName accepted
  have footer : Twin (written (footer? target).toList) (written (footer? target).toList) [] [] := by
    cases target with
    | python => exact .nil
    | java => exact twin_cons_ofList rfl .nil
  have parts := (headers.append (twin_units target same fixture names h)).append footer
  rw [List.append_nil, List.append_nil] at parts
  simp only [documentLines, written_append]
  exact parts

/-! ## The file as a whole -/

/-- Whether an assertion can be written does not depend on its strings. -/
theorem writable_shape (target : Target) (node : Assertion) :
    Writable target node.shape ↔ Writable target node := by
  cases node <;> rfl

theorem allWritable_shape (target : Target) (program : Program) :
    AllWritable target program.shape.tests ↔ AllWritable target program.tests := by
  simp only [AllWritable, Program.shape, TestBlock.shape, List.forall_mem_map, writable_shape]

/-- **No string can inject code.** Take two programs of the same shape, whose test names hold no
quote, and two settings that differ only in the base address and the default headers. Scanned for
literals, their files have the same code with literals in the same places. At some of these places, the
same in both files, stand literals without raw control characters that decode to the strings, in order;
at the others the literals are equal. -/
theorem strings_stay_in_literals (target : Target) (accepted : first.Accepted)
    (same : first.shape = second.shape)
    (package : ∀ name ∈ first.targets.java.package, '"' ∉ name.toList)
    (outputName : Option RawText) {p q : Program}
    (names : ∀ test ∈ p.tests, '"' ∉ test.name.toList) (h : p.shape = q.shape) :
    (∃ failure, text target first none outputName p = .error failure ∧
      text target second none outputName q = .error failure) ∨
    ∃ file file', text target first none outputName p = .ok file ∧
      text target second none outputName q = .ok file' ∧
      outline (segments file) = outline (segments file') ∧
      ∃ marks : List Bool,
        (literals (segments file)).length = marks.length ∧
        (literals (segments file')).length = marks.length ∧
        (marked marks (literals (segments file))).map decode =
          (first.strings ++ p.strings target).map (some ·.toList) ∧
        (marked marks (literals (segments file'))).map decode =
          (second.strings ++ q.strings target).map (some ·.toList) ∧
        marked (marks.map not) (literals (segments file)) =
          marked (marks.map not) (literals (segments file')) ∧
        ∀ content ∈ marked marks (literals (segments file)) ++ marked marks (literals (segments file')),
          ∀ c ∈ content, 0x20 ≤ c.toNat := by
  rw [text_eq_written, text_eq_written]
  have alike : AllWritable target p.tests ↔ AllWritable target q.tests := by
    rw [← allWritable_shape, h, allWritable_shape]
  by_cases writable : AllWritable target p.tests
  case neg => exact .inl ⟨.digits, if_neg writable, if_neg (mt alike.2 writable)⟩
  rw [if_pos writable, if_pos (alike.1 writable)]
  rcases twin_headerLines target accepted same package outputName with
    ⟨failure, error, error'⟩ | ⟨header, header', ok, ok', headers⟩
  · exact .inl ⟨failure, by rw [error]; rfl, by rw [error']; rfl⟩
  · have twin := twin_document target accepted same names h headers
    obtain ⟨marks, alike⟩ := twin.exists_alike
    rw [ok, ok']
    refine .inr ⟨_, _, rfl, rfl, ?_⟩
    rw [segments, segments, String.toList_ofList, String.toList_ofList]
    exact ⟨alike.code, marks, alike.count_first, alike.count_second, alike.decode_first,
      alike.decode_second, alike.others, alike.printable⟩

/-- Quotes, trailing backslashes and line feeds in every place of a class that a string can reach. -/
theorem strings_confined_in_class :
    let settings : Settings := { generation := { baseUrl := "\"; \\" } }
    let p : Program := ⟨[⟨"a", [⟨.get, "/"⟩], [.bodyContains "b", .headerEquals "c" "d"]⟩]⟩
    let q : Program :=
      ⟨[⟨"a", [⟨.get, "\"\\\\"⟩], [.bodyContains "\\\"\n", .headerEquals "\\" "\");"]⟩]⟩
    ∃ file file', text .java {} none none p = .ok file ∧
      text .java settings none none q = .ok file' ∧
      outline (segments file) = outline (segments file') ∧
      ∃ marks, (marked marks (literals (segments file'))).map decode =
        ["\"; \\", "\"\\\\", "\\\"\n", "body does not contain " ++ "\\\"\n", "\");", "\\"].map
          (some ·.toList) := by
  intro settings p q
  have produced : ∃ file, text .java {} none none p = .ok file := ⟨_, rfl⟩
  have accepted : Settings.Accepted {} := ⟨.mapping [], rfl⟩
  have confined := @strings_stay_in_literals {} settings .java accepted rfl (by simp) none p q
    (by simp [p]) rfl
  rcases confined with ⟨failure, error, -⟩ | ⟨file, file', ok, ok', code, marks, -, -, -, strings, -⟩
  · obtain ⟨file, ok⟩ := produced
    cases ok.symm.trans error
  · exact ⟨file, file', ok, ok', code, marks, strings⟩

/-- A test name with a quote opens a literal, so that the path after it stands in the code. -/
theorem quote_in_name_leaks :
    let p : Program := ⟨[⟨"\"", [⟨.get, "/x"⟩], []⟩]⟩
    let q : Program := ⟨[⟨"\"", [⟨.get, "/y"⟩], []⟩]⟩
    Settings.Accepted {} ∧ p.shape = q.shape ∧
      ∃ file file', text .python {} none none p = .ok file ∧
        text .python {} none none q = .ok file' ∧
        outline (segments file) ≠ outline (segments file') := by
  intro p q
  have header : Twin (written (PythonModule.header {} none)) (written (PythonModule.header {} none))
      (Settings.strings {}) (Settings.strings {}) := twin_pythonHeader rfl (plain_ofList rfl)
  -- The header leaves no literal open, so only the units have to be scanned.
  have parts : ∀ program, outline (segments (String.ofList (written
        (documentLines .python {} program (PythonModule.header {} none))))) =
      outline (Text.scan .outside (written (PythonModule.header {} none))) ++
        outline (Text.scan .outside (written
          ((unitBlocks .python {} program).flatMap (blankLines .python ++ ·)))) := by
    intro program
    rw [segments, String.toList_ofList, documentLines, footer?, Option.toList_none, List.append_nil,
      written_append, header.scan_append]
    exact List.map_append
  have units : outline (Text.scan .outside (written
        ((unitBlocks .python {} p).flatMap (blankLines .python ++ ·)))) ≠
      outline (Text.scan .outside (written
        ((unitBlocks .python {} q).flatMap (blankLines .python ++ ·)))) := by
    decide +kernel
  have writable : AllWritable .python p.tests ∧ AllWritable .python q.tests := by
    simp [AllWritable, p, q]
  refine ⟨⟨.mapping [], rfl⟩, rfl, _, _, text_eq_ok_iff.2 ⟨writable.1, _, rfl, rfl⟩,
    text_eq_ok_iff.2 ⟨writable.2, _, rfl, rfl⟩, ?_⟩
  rw [parts p, parts q]
  exact fun leak => units (List.append_cancel_left leak)

end

end Emit

end HttpSuite
