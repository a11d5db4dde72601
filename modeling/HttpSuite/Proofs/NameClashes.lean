import HttpSuite.Proofs.Confinement
import HttpSuite.Proofs.Printing
import HttpSuite.Proofs.UnitNames

/-!
# Names do not clash

No name in a generated file is declared twice (`generated_names_distinct`). The names are read off the
lines of the file (`Declares`), from the first line of code on:

* **modules** — a name is imported, gets a value or is that of a function (`definedName?`);
* **classes** — the names of interest are those of the methods (`methodName?`);
* **units** — each unit declares its name and nothing else, whatever its statements are
  (`declares_pythonUnit`, `declares_javaUnit`), so a file declares the names of its header and then
  the unit names (`declares_units`).

Unit names start with `test_`, which neither the fixed names nor the fixture's name do.
-/

namespace HttpSuite.Emit

open Lexing
open Text (literal)

/-! ## Names in lines -/

/-- The name that a line at the margin of a module imports or defines. -/
def definedName? (line : String) : Option String :=
  let word := line.toList.takeWhile isWordPart
  let rest := line.toList.dropWhile isWordPart
  if word = "import".toList then some (String.ofList (rest.drop 1))
  else if word = "def".toList then some (String.ofList ((rest.drop 1).takeWhile (· != '(')))
  else if word ≠ [] ∧ " = ".toList <+: rest then some (String.ofList word)
  else none

/-- The name of the method that a line of a class opens: the word in front of the first bracket, on a
line indented once that ends with a brace. -/
def methodName? (line : String) : Option String :=
  let code := line.toList.dropWhile (· == ' ')
  if line.toList.length = code.length + 4 ∧ line.toList.getLast? = some '{' then
    some (String.ofList ((code.takeWhile (· != '(')).reverse.takeWhile (· != ' ')).reverse)
  else none

/-- Each of the texts is one line, and the names read off them are the given ones. -/
structure Declares (name? : String → Option String) (lines names : List String) : Prop where
  single : ∀ line ∈ lines, '\n' ∉ line.toList
  names : lines.filterMap name? = names

namespace Declares

variable {name? : String → Option String} {line name : String} {lines names : List String}

theorem nil : Declares name? [] [] :=
  ⟨by simp, rfl⟩

theorem other (single : '\n' ∉ line.toList) (none : name? line = none)
    (h : Declares name? lines names) : Declares name? (line :: lines) names :=
  ⟨List.forall_mem_cons.2 ⟨single, h.single⟩, by rw [List.filterMap_cons_none none, h.names]⟩

theorem named (single : '\n' ∉ line.toList) (some : name? line = some name)
    (h : Declares name? lines names) : Declares name? (line :: lines) (name :: names) :=
  ⟨List.forall_mem_cons.2 ⟨single, h.single⟩, by rw [List.filterMap_cons_some some, h.names]⟩

theorem append {more others : List String} (h : Declares name? lines names)
    (h' : Declares name? more others) : Declares name? (lines ++ more) (names ++ others) :=
  ⟨List.forall_mem_append.2 ⟨h.single, h'.single⟩, by rw [List.filterMap_append, h.names, h'.names]⟩

theorem of_none (h : ∀ line ∈ lines, '\n' ∉ line.toList ∧ name? line = none) :
    Declares name? lines [] :=
  ⟨fun line hm => (h line hm).1, List.filterMap_eq_nil_iff.2 fun line hm => (h line hm).2⟩

end Declares

section Lines

variable {line name : String} {word rest : List Char} {c : Char}

theorem definedName?_of_head (chars : line.toList = c :: rest) (other : isWordPart c = false) :
    definedName? line = none := by
  simp [definedName?, chars, other]

theorem definedName?_ofList_cons (other : isWordPart c = false) :
    definedName? (String.ofList (c :: rest)) = none :=
  definedName?_of_head String.toList_ofList other

theorem definedName?_function (chars : line.toList = "def ".toList ++ (name.toList ++ '(' :: rest))
    (bracket : '(' ∉ name.toList) : definedName? line = some name := by
  have parts : ∀ c ∈ ['d', 'e', 'f'], isWordPart c := by simp; decide
  have stops : Stops isWordPart (' ' :: (name.toList ++ '(' :: rest)) := by
    rintro c cs ⟨⟩
    rfl
  have before : ∀ c ∈ name.toList, (c != '(') = true := by
    intro c hc
    rw [bne_iff_ne]
    rintro rfl
    exact bracket hc
  have behind : Stops (· != '(') ('(' :: rest) := by
    rintro c cs ⟨⟩
    rfl
  have split : line.toList = ['d', 'e', 'f'] ++ ' ' :: (name.toList ++ '(' :: rest) := chars
  rw [definedName?, split, takeWhile_append_of_stops parts stops,
    dropWhile_append_of_stops parts stops]
  rw [if_neg (by decide), if_pos (by decide), List.drop_one, List.tail_cons,
    takeWhile_append_of_stops before behind, String.ofList_toList]

theorem definedName?_constant (chars : line.toList = word ++ ' ' :: '=' :: ' ' :: rest)
    (parts : word.all isWordPart) (ne : word ≠ []) (ni : word ≠ "import".toList)
    (nd : word ≠ "def".toList) : definedName? line = some (String.ofList word) := by
  have run : ∀ c ∈ word, isWordPart c := List.all_eq_true.1 parts
  have stops : Stops isWordPart (' ' :: '=' :: ' ' :: rest) := by
    rintro c cs ⟨⟩
    rfl
  rw [definedName?, chars, takeWhile_append_of_stops run stops, dropWhile_append_of_stops run stops]
  rw [if_neg ni, if_neg nd, if_pos ⟨ne, rest, rfl⟩]

theorem methodName?_of_last (last : line.toList.getLast? = some c) (other : c ≠ '{') :
    methodName? line = none := by
  simp [methodName?, last, other]

theorem methodName?_ofList_last (last : rest.getLast? = some c) (other : c ≠ '{') :
    methodName? (String.ofList rest) = none :=
  methodName?_of_last (by rw [String.toList_ofList, last]) other

theorem methodName?_append_last (last : rest.getLast? = some c) (other : c ≠ '{') :
    methodName? (line ++ String.ofList rest) = none := by
  refine methodName?_of_last ?_ other
  rw [String.toList_append, String.toList_ofList, List.getLast?_append, last, Option.some_or]

theorem methodName?_of_head (head : line.toList.head? = some c) (other : c ≠ ' ') :
    methodName? line = none := by
  obtain ⟨rest, chars⟩ := List.head?_eq_some_iff.1 head
  simp [methodName?, chars, other]

theorem methodName?_indented (chars : line.toList = ' ' :: ' ' :: ' ' :: ' ' :: ' ' :: rest) :
    methodName? line = none := by
  have skipped : line.toList.dropWhile (· == ' ') = rest.dropWhile (· == ' ') := by
    rw [chars]
    rfl
  have shorter := (rest.dropWhile_suffix (· == ' ')).length_le
  have length : line.toList.length = rest.length + 5 := by
    rw [chars]
    rfl
  rw [methodName?, skipped, if_neg (by omega)]

/-- A line that opens a method, whatever stands in front of its name. -/
theorem methodName?_method {front : List Char}
    (chars : line.toList = "    ".toList ++ (c :: front ++ ' ' :: (name.toList ++ '(' :: rest)))
    (start : c ≠ ' ') (front_bracket : '(' ∉ c :: front) (bracket : '(' ∉ name.toList)
    (blank : ' ' ∉ name.toList) (last : line.toList.getLast? = some '{') :
    methodName? line = some name := by
  let code := c :: front ++ ' ' :: (name.toList ++ '(' :: rest)
  have skipped : line.toList.dropWhile (· == ' ') = code := by
    rw [chars]
    show (c :: _).dropWhile (· == ' ') = _
    rw [List.dropWhile_cons_of_neg (by simpa using start)]
    rfl
  have length : line.toList.length = code.length + 4 := by
    rw [chars, List.length_append, Nat.add_comm]
    rfl
  have before : code.takeWhile (· != '(') = c :: front ++ ' ' :: name.toList := by
    have whole : code = (c :: front ++ ' ' :: name.toList) ++ '(' :: rest := by simp [code]
    rw [whole]
    refine takeWhile_append_of_stops ?_ ?_
    · intro d hd
      rw [bne_iff_ne]
      rintro rfl
      rcases List.mem_append.1 hd with hd | hd
      · exact front_bracket hd
      · exact bracket ((List.mem_cons.1 hd).resolve_left (by decide))
    · rintro d ds ⟨⟩
      rfl
  have word : (c :: front ++ ' ' :: name.toList).reverse.takeWhile (· != ' ') =
      name.toList.reverse := by
    rw [List.reverse_append, List.reverse_cons, List.append_assoc]
    refine takeWhile_append_of_stops ?_ ?_
    · intro d hd
      rw [bne_iff_ne]
      rintro rfl
      exact blank (List.mem_reverse.1 hd)
    · rintro d ds ⟨⟩
      rfl
  rw [methodName?, skipped, if_pos ⟨length, last⟩, before, word, List.reverse_reverse,
    String.ofList_toList]

end Lines

/-! ## Headers -/

theorem newline_not_mem_ofList {cs : List Char} (h : cs.all (· != '\n')) :
    '\n' ∉ (String.ofList cs).toList := by
  rw [String.toList_ofList]
  intro hm
  simpa using List.all_eq_true.1 h _ hm

theorem newline_not_mem_append {front back : String} (hf : '\n' ∉ front.toList)
    (hb : '\n' ∉ back.toList) : '\n' ∉ (front ++ back).toList := by
  rw [String.toList_append, List.mem_append, not_or]
  exact ⟨hf, hb⟩

theorem newline_not_mem_literal (text : String) : '\n' ∉ (literal text).toList := by
  intro hm
  exact absurd (Text.printable_literal hm) (by decide)

theorem newline_not_mem_intercalate {separator : String} {texts : List String}
    (hs : '\n' ∉ separator.toList) (h : ∀ text ∈ texts, '\n' ∉ text.toList) :
    '\n' ∉ (separator.intercalate texts).toList := by
  induction texts with
  | nil => simp
  | cons text texts ih =>
    rw [List.forall_mem_cons] at h
    cases texts with
    | nil => simpa using h.1
    | cons next texts =>
      rw [String.intercalate_cons_cons]
      exact newline_not_mem_append (newline_not_mem_append h.1 hs) (ih h.2)

variable {settings : Settings}

/-- The comment at the head of a file, and the package of a class. -/
def headLines (target : Target) (settings : Settings) (sourceName : Option String) : List String :=
  match target with
  | .python => (PythonModule.header settings sourceName).take 4
  | .java =>
    [JavaClass.title ++ origin sourceName ++ ". Do not edit by hand.", ""] ++
      JavaClass.packageLines settings.targets.java.package

/-- Behind its docstring the header of a module declares what it imports, the settings and the
fixture. -/
theorem declares_pythonHeader (accepted : settings.Accepted) (sourceName : Option String) :
    Declares definedName? ((PythonModule.header settings sourceName).drop 4)
      ["httpx", "pytest", "BASE_URL", "TIMEOUT", "DEFAULT_HEADERS",
        settings.targets.python.fixtureName] := by
  have imports : Declares definedName? ["", "import httpx", "import pytest", ""]
      ["httpx", "pytest"] :=
    ⟨by decide, by decide⟩
  have entries : ∀ text ∈ settings.generation.headers.map
      (fun header => literal header.1 ++ ": " ++ literal header.2), '\n' ∉ text.toList := by
    rw [List.forall_mem_map]
    intro header _
    exact newline_not_mem_append (newline_not_mem_append (newline_not_mem_literal header.1)
      (newline_not_mem_ofList rfl)) (newline_not_mem_literal header.2)
  have constants : Declares definedName?
      ["BASE_URL = " ++ literal settings.generation.baseUrl,
        "TIMEOUT = " ++ Number.plain.text settings.generation.timeout,
        "DEFAULT_HEADERS = \x7b" ++ ", ".intercalate (settings.generation.headers.map
          fun header => literal header.1 ++ ": " ++ literal header.2) ++ "\x7d"]
      ["BASE_URL", "TIMEOUT", "DEFAULT_HEADERS"] := by
    refine .named ?_ ?_ (.named ?_ ?_ (.named ?_ ?_ .nil))
    · exact newline_not_mem_append (newline_not_mem_ofList rfl) (newline_not_mem_literal _)
    · exact definedName?_constant (by rw [String.toList_append]; rfl) rfl (by decide) (by decide)
        (by decide)
    · exact newline_not_mem_append (newline_not_mem_ofList rfl) (not_mem_number rfl (by decide) _)
    · exact definedName?_constant (by rw [String.toList_append]; rfl) rfl (by decide) (by decide)
        (by decide)
    · exact newline_not_mem_append (newline_not_mem_append (newline_not_mem_ofList rfl)
        (newline_not_mem_intercalate (newline_not_mem_ofList rfl) entries))
        (newline_not_mem_ofList rfl)
    · exact definedName?_constant (by rw [String.toList_append, String.toList_append]; rfl) rfl
        (by decide) (by decide) (by decide)
  have function : Declares definedName? ["def " ++ settings.targets.python.fixtureName ++ "():"]
      [settings.targets.python.fixtureName] := by
    have chars : ("def " ++ settings.targets.python.fixtureName ++ "():").toList =
        "def ".toList ++ (settings.targets.python.fixtureName.toList ++ '(' :: [')', ':']) := by
      rw [String.toList_append, String.toList_append, List.append_assoc]
      rfl
    refine .named ?_ (definedName?_function chars (accepted.not_mem_fixtureName rfl rfl)) .nil
    exact newline_not_mem_append (newline_not_mem_append (newline_not_mem_ofList rfl)
      (plain_fixtureName accepted).1) (newline_not_mem_ofList rfl)
  have around : Declares definedName? ["", "", "@pytest.fixture"] [] := ⟨by decide, by decide⟩
  have body : Declares definedName?
      ["    with httpx.Client(base_url=BASE_URL, headers=DEFAULT_HEADERS, timeout=TIMEOUT) as client:",
        "        yield client"] [] :=
    .other (newline_not_mem_ofList rfl) (definedName?_ofList_cons rfl)
      (.other (newline_not_mem_ofList rfl) (definedName?_ofList_cons rfl) .nil)
  exact (((imports.append constants).append around).append function).append body

/-- Behind the package the header of a class declares the methods that set up and send. -/
theorem declares_javaHeader (settings : Settings) {className : String}
    (named : '\n' ∉ className.toList) (sourceName : Option String) (millis : Int) :
    ∃ code, JavaClass.header settings sourceName millis className =
        headLines .java settings sourceName ++ code ∧
      Declares methodName? code ["setUp", "send"] := by
  have imports : Declares methodName? JavaClass.imports [] := by
    rw [JavaClass.imports]
    iterate 2 refine .other (newline_not_mem_ofList rfl) (methodName?_ofList_last rfl (by decide)) ?_
    refine .other (by decide) rfl ?_
    iterate 7 refine .other (newline_not_mem_ofList rfl) (methodName?_ofList_last rfl (by decide)) ?_
    refine .other (by decide) rfl ?_
    iterate 2 refine .other (newline_not_mem_ofList rfl) (methodName?_ofList_last rfl (by decide)) ?_
    exact .nil
  have fields : Declares methodName?
      ["", "public class " ++ className ++ " \x7b",
        "    static final String BASE_URL = " ++ literal settings.generation.baseUrl ++ ";",
        "    static final Duration TIMEOUT = Duration.ofMillis(" ++ toString millis ++ ");",
        "    static final Map<String, String> DEFAULT_HEADERS = new LinkedHashMap<>();",
        "    static HttpClient client;",
        "",
        "    @BeforeAll",
        "    static void setUp() \x7b"] ["setUp"] := by
    refine .other (by decide) rfl (.other ?_ ?_ (.other ?_ ?_ (.other ?_ ?_ (.other ?_ ?_
      (.other ?_ ?_ (.other (by decide) rfl (.other ?_ ?_ (.named ?_ ?_ .nil))))))))
    · exact newline_not_mem_append (newline_not_mem_append (newline_not_mem_ofList rfl) named)
        (newline_not_mem_ofList rfl)
    · refine methodName?_of_head ?_ (by decide : 'p' ≠ ' ')
      rw [String.toList_append, String.toList_append, List.append_assoc]
      exact head?_ofList_append
    · exact newline_not_mem_append (newline_not_mem_append (newline_not_mem_ofList rfl)
        (newline_not_mem_literal _)) (newline_not_mem_ofList rfl)
    · exact methodName?_append_last rfl (by decide)
    · exact newline_not_mem_append (newline_not_mem_append (newline_not_mem_ofList rfl)
        plain_toString.1) (newline_not_mem_ofList rfl)
    · exact methodName?_append_last rfl (by decide)
    · exact newline_not_mem_ofList rfl
    · exact methodName?_ofList_last rfl (by decide)
    · exact newline_not_mem_ofList rfl
    · exact methodName?_ofList_last rfl (by decide)
    · exact newline_not_mem_ofList rfl
    · exact methodName?_ofList_last rfl (by decide)
    · exact newline_not_mem_ofList rfl
    · decide
  have entries : Declares methodName? (settings.generation.headers.map fun header =>
      "        DEFAULT_HEADERS.put(" ++ literal header.1 ++ ", " ++ literal header.2 ++ ");") [] := by
    refine .of_none ?_
    rw [List.forall_mem_map]
    intro header _
    refine ⟨?_, methodName?_append_last rfl (by decide)⟩
    exact newline_not_mem_append (newline_not_mem_append (newline_not_mem_append
      (newline_not_mem_append (newline_not_mem_ofList rfl) (newline_not_mem_literal header.1))
      (newline_not_mem_ofList rfl)) (newline_not_mem_literal header.2)) (newline_not_mem_ofList rfl)
  have methods : Declares methodName?
      ["        client = HttpClient.newBuilder().connectTimeout(TIMEOUT).build();",
        "    \x7d",
        "",
        "    static HttpResponse<String> send(String method, String path) throws Exception \x7b",
        "        HttpRequest.Builder builder = HttpRequest.newBuilder(URI.create(BASE_URL + path))",
        "            .timeout(TIMEOUT)",
        "            .method(method, HttpRequest.BodyPublishers.noBody());",
        "        DEFAULT_HEADERS.forEach(builder::header);",
        "        return client.send(builder.build(), HttpResponse.BodyHandlers.ofString());",
        "    \x7d"] ["send"] := by
    iterate 2 refine .other (newline_not_mem_ofList rfl) (methodName?_ofList_last rfl (by decide)) ?_
    refine .other (by decide) rfl (.named (newline_not_mem_ofList rfl) ?_ ?_)
    · have chars :
          "    static HttpResponse<String> send(String method, String path) throws Exception \x7b".toList =
          "    ".toList ++ ('s' :: "tatic HttpResponse<String>".toList ++ ' ' :: ("send".toList ++
            '(' :: "String method, String path) throws Exception \x7b".toList)) := by
        simp
      exact methodName?_method chars (by decide) (by simp) (by decide) (by decide) (by simp)
    · iterate 6 refine .other (newline_not_mem_ofList rfl) (methodName?_ofList_last rfl (by decide)) ?_
      exact .nil
  refine ⟨JavaClass.imports ++ _ ++ _ ++ _, ?_, ((imports.append fields).append entries).append methods⟩
  simp only [JavaClass.header, headLines, List.append_assoc]

/-! ## Units -/

section Units

variable {target : Target} {name? : String → Option String} {test : TestBlock} {name : String}

/-- A function declares its name, and nothing in its statements. -/
theorem declares_pythonUnit (fixture : Plain settings.targets.python.fixtureName)
    (parts : ∀ c ∈ name.toList, isWordPart c) :
    Declares definedName? (unitLines .python settings test name) [name] := by
  have newline : '\n' ∉ name.toList := fun hm => absurd (parts _ hm) (by decide)
  have bracket : '(' ∉ name.toList := fun hm => absurd (parts _ hm) (by decide)
  have chars : ("def " ++ name ++ "(" ++ settings.targets.python.fixtureName ++ "):").toList =
      "def ".toList ++ (name.toList ++ '(' ::
        (settings.targets.python.fixtureName.toList ++ [')', ':'])) := by
    simp
  have body : ((statements .python settings test).map (margin .python ++ ·)).filterMap definedName? =
      [] := by
    rw [List.filterMap_eq_nil_iff, List.forall_mem_map]
    intro statement _
    exact definedName?_of_head (by rw [String.toList_append]; rfl) (by decide : isWordPart ' ' = false)
  refine ⟨fun line => newline_not_mem_unit fixture newline, ?_⟩
  rw [unitLines, closingLines, List.append_nil, List.filterMap_append, body, List.append_nil,
    openingLines, List.filterMap_cons_some (definedName?_function chars bracket), List.filterMap_nil]

/-- A method declares its name, and nothing in its statements. -/
theorem declares_javaUnit (fixture : Plain settings.targets.python.fixtureName)
    (parts : ∀ c ∈ name.toList, isWordPart c) :
    Declares methodName? (unitLines .java settings test name) [name] := by
  have newline : '\n' ∉ name.toList := fun hm => absurd (parts _ hm) (by decide)
  have bracket : '(' ∉ name.toList := fun hm => absurd (parts _ hm) (by decide)
  have blank : ' ' ∉ name.toList := fun hm => absurd (parts _ hm) (by decide)
  have method : methodName? ("    void " ++ name ++ "() throws Exception \x7b") = some name := by
    have chars : ("    void " ++ name ++ "() throws Exception \x7b").toList =
        "    ".toList ++ ('v' :: ['o', 'i', 'd'] ++ ' ' ::
          (name.toList ++ '(' :: ") throws Exception \x7b".toList)) := by
      simp
    refine methodName?_method chars (by decide) (by decide) bracket blank ?_
    rw [String.toList_append, List.getLast?_append]
    rfl
  have body : ((statements .java settings test).map (margin .java ++ ·)).filterMap methodName? =
      [] := by
    rw [List.filterMap_eq_nil_iff, List.forall_mem_map]
    intro statement _
    exact methodName?_indented (by rw [String.toList_append]; rfl)
  have declaration : methodName? "        HttpResponse<String> response;" = none :=
    methodName?_ofList_last rfl (by decide)
  have opening : (openingLines .java settings name).filterMap methodName? = [name] := by
    rw [openingLines, List.filterMap_cons_none (by decide), List.filterMap_cons_some method,
      List.filterMap_cons_none declaration, List.filterMap_nil]
  refine ⟨fun line => newline_not_mem_unit fixture newline, ?_⟩
  rw [unitLines, List.filterMap_append, List.filterMap_append, opening, body, closingLines,
    List.filterMap_cons_none (by decide)]
  rfl

/-- Units that each declare their name declare the unit names. -/
theorem declares_units {program : Program} (blank : Declares name? (blankLines target) [])
    (unit : ∀ test, ∀ name ∈ unitNames (program.tests.map (·.name)),
      Declares name? (unitLines target settings test name) [name]) :
    Declares name? ((unitBlocks target settings program).flatMap (blankLines target ++ ·))
      (unitNames (program.tests.map (·.name))) := by
  have lengths : program.tests.length = (unitNames (program.tests.map (·.name))).length := by
    rw [length_unitNames, List.length_map]
  rw [unitBlocks]
  generalize unitNames (program.tests.map (·.name)) = names at unit lengths ⊢
  generalize program.tests = tests at lengths ⊢
  induction names generalizing tests with
  | nil =>
    rw [List.zipWith_nil_right]
    exact .nil
  | cons name names ih =>
    obtain ⟨test, tests, rfl⟩ := List.exists_cons_of_length_eq_add_one lengths
    have first := unit test name List.mem_cons_self
    have others := ih (fun test other hm => unit test other (List.mem_cons_of_mem name hm)) tests
      (Nat.succ.inj lengths)
    exact (blank.append first).append others

end Units

/-! ## Unit names and other names -/

section Names

variable {names : List String} {unit : String}

/-- No unit name is one that does not start with `test`. -/
theorem ne_of_mem_unitNames {other : String} (h : "test".toList.isPrefixOf other.toList = false)
    (hu : unit ∈ unitNames names) : unit ≠ other := by
  rintro rfl
  obtain ⟨rest, rfl⟩ := exists_of_mem_unitNames hu
  have start : "test".toList.isPrefixOf ("test_" ++ rest).toList := by
    rw [String.toList_append, List.isPrefixOf_iff_prefix]
    exact ⟨'_' :: rest.toList, rfl⟩
  rw [start] at h
  cases h

theorem nodup_append_unitNames {front : List String} (nodup : front.Nodup)
    (h : ∀ name ∈ front, "test".toList.isPrefixOf name.toList = false) (names : List String) :
    (front ++ unitNames names).Nodup := by
  rw [List.nodup_append]
  refine ⟨nodup, nodup_unitNames names, ?_⟩
  intro name hm unit hu same
  exact ne_of_mem_unitNames (h name hm) hu same.symm

theorem toNat_lt_of_isWordPart {c : Char} (h : isWordPart c) : c.toNat < 0x80 := by
  have classes : ((('A'.val ≤ c.val ∧ c.val ≤ 'Z'.val) ∨ ('a'.val ≤ c.val ∧ c.val ≤ 'z'.val)) ∨
      ('0'.val ≤ c.val ∧ c.val ≤ '9'.val)) ∨ c = '_' := by
    change (((decide ('A'.val ≤ c.val ∧ c.val ≤ 'Z'.val) ||
      (decide ('a'.val ≤ c.val) && decide (c.val ≤ 'z'.val))) ||
      (decide ('0'.val ≤ c.val) && decide (c.val ≤ '9'.val))) || c == '_') = true at h
    simpa using h
  have bound : ∀ d : Char, c.val ≤ d.val → c.toNat ≤ d.toNat := fun d le => le
  rcases classes with ((⟨-, le⟩ | ⟨-, le⟩) | ⟨-, le⟩) | rfl
  · exact Nat.lt_of_le_of_lt (bound 'Z' le) (by decide)
  · exact Nat.lt_of_le_of_lt (bound 'z' le) (by decide)
  · exact Nat.lt_of_le_of_lt (bound '9' le) (by decide)
  · decide

/-- A unit name is a word. -/
theorem exists_cons_of_mem_unitNames (parts : ∀ name ∈ names, ∀ c ∈ name.toList, isWordPart c)
    (hu : unit ∈ unitNames names) :
    ∃ cs, unit.toList = 't' :: cs ∧ ∀ d ∈ cs, isWordPart d := by
  have whole := isWordPart_of_mem_unitNames parts hu
  obtain ⟨rest, rfl⟩ := exists_of_mem_unitNames hu
  have chars : ("test_" ++ rest).toList = 't' :: ("est_".toList ++ rest.toList) := by
    rw [String.toList_append]
    rfl
  rw [chars] at whole
  exact ⟨_, chars, (List.forall_mem_cons.1 whole).2⟩

theorem not_mem_of_mem_unitNames {others : List String}
    (h : others.all fun name => !"test".toList.isPrefixOf name.toList)
    (hu : unit ∈ unitNames names) : unit ∉ others := by
  intro hm
  exact ne_of_mem_unitNames (by simpa using List.all_eq_true.1 h unit hm) hu rfl

/-- A word with `test_` in front of it is a name in Java. -/
theorem isJavaName_of_mem_unitNames (parts : ∀ name ∈ names, ∀ c ∈ name.toList, isWordPart c)
    (hu : unit ∈ unitNames names) : isJavaName unit := by
  obtain ⟨cs, chars, rest⟩ := exists_cons_of_mem_unitNames parts hu
  have same : ('t' :: cs).map (fun c => if c = '$' then '_' else c) = 't' :: cs := by
    have fixed : ∀ c ∈ 't' :: cs, (if c = '$' then '_' else c) = c := by
      intro c hc
      refine if_neg ?_
      rintro rfl
      exact absurd (rest _ ((List.mem_cons.1 hc).resolve_left (by decide))) (by decide)
    rw [List.map_congr_left fixed, List.map_id']
  have identifier : cs.all Text.isIdentifierPart := by
    rw [List.all_eq_true]
    intro c hc
    rw [Text.isIdentifierPart, if_pos (toNat_lt_of_isWordPart (rest c hc))]
    exact rest c hc
  have keyword : unit ∉ javaKeywords := not_mem_of_mem_unitNames (by decide +kernel) hu
  rw [isJavaName, chars, same, Bool.and_eq_true]
  refine ⟨?_, by simpa using keyword⟩
  rw [Text.isIdentifier, identifier]
  rfl

end Names

/-! ## Whole files -/

/-- The names that a module defines or imports. -/
def moduleLevelNames (settings : Settings) (program : Program) : List String :=
  ["httpx", "pytest", "BASE_URL", "TIMEOUT", "DEFAULT_HEADERS",
    settings.targets.python.fixtureName] ++ unitNames (program.tests.map (·.name))

/-- The names of the methods of a class. -/
def methodNames (program : Program) : List String :=
  ["setUp", "send"] ++ unitNames (program.tests.map (·.name))

theorem isWordPart_of_parse {source : String} {program : Program}
    (parsed : parse source = .ok program) :
    ∀ name ∈ program.tests.map (·.name), ∀ c ∈ name.toList, isWordPart c := by
  rw [List.forall_mem_map]
  intro test ht c hc
  obtain ⟨⟨d, cs, chars, start, parts⟩, -⟩ := (expressible_of_parse parsed test ht).name
  rw [chars] at hc
  rcases List.mem_cons.1 hc with rfl | hc
  · rw [isWordStart, Bool.or_eq_true] at start
    rcases start with alpha | underscore
    · simp [isWordPart, Char.isAlphanum, alpha]
    · simp [isWordPart, underscore]
  · exact parts c hc

section Files

variable {settings : Settings} {program : Program} (sourceName : Option String)
  (outputName : Option RawText)

theorem declares_module (accepted : settings.Accepted)
    (writable : AllWritable .python program.tests)
    (parts : ∀ name ∈ program.tests.map (·.name), ∀ c ∈ name.toList, isWordPart c) :
    ∃ code, text .python settings sourceName outputName program =
        .ok (String.ofList (written (headLines .python settings sourceName ++ code))) ∧
      Declares definedName? code (moduleLevelNames settings program) := by
  have blank : Declares definedName? (blankLines .python) [] := ⟨by decide, by decide⟩
  have units : Declares definedName?
      ((unitBlocks .python settings program).flatMap (blankLines .python ++ ·))
      (unitNames (program.tests.map (·.name))) :=
    declares_units blank fun test name hu =>
      declares_pythonUnit (plain_fixtureName accepted) (isWordPart_of_mem_unitNames parts hu)
  refine ⟨_, ?_, (declares_pythonHeader accepted sourceName).append units⟩
  rw [headLines, ← List.append_assoc, List.take_append_drop]
  refine text_eq_ok_iff.2 ⟨writable, _, rfl, ?_⟩
  rw [documentLines, footer?, Option.toList_none, List.append_nil]

theorem declares_class (accepted : settings.Accepted)
    (parts : ∀ name ∈ program.tests.map (·.name), ∀ c ∈ name.toList, isWordPart c) {file : String}
    (made : text .java settings sourceName outputName program = .ok file) :
    ∃ code, file = String.ofList (written (headLines .java settings sourceName ++ code)) ∧
      Declares methodName? code (methodNames program) := by
  have blank : Declares methodName? (blankLines .java) [] := ⟨by decide, by decide⟩
  have units : Declares methodName?
      ((unitBlocks .java settings program).flatMap (blankLines .java ++ ·))
      (unitNames (program.tests.map (·.name))) :=
    declares_units blank fun test name hu =>
      declares_javaUnit (plain_fixtureName accepted) (isWordPart_of_mem_unitNames parts hu)
  have footer : Declares methodName? ["\x7d"] [] := ⟨by decide, by decide⟩
  obtain ⟨-, lines, headed, rfl⟩ := text_eq_ok_iff.1 made
  obtain ⟨millis, name, -, chosen, rfl⟩ := exists_eq_header headed
  have java := accepted.isJavaName_className chosen
  have newline : '\n' ∉ name.toList := not_mem_of_isJavaName java (by decide) rfl rfl
  obtain ⟨code, split, header⟩ := declares_javaHeader settings newline sourceName millis
  have names : ["setUp", "send"] ++ unitNames (program.tests.map (·.name)) ++ [] =
      methodNames program := List.append_nil _
  refine ⟨_, ?_, names ▸ (header.append units).append footer⟩
  rw [documentLines, split, List.append_assoc, List.append_assoc, List.append_assoc]
  rfl

end Files

/-- **No two names of a generated file clash.** For accepted settings and a program that a text denotes:
behind its docstring a module declares what it imports, the settings, the fixture and its units under
distinct names; the fixture is not called `response`, as the result of a request is; every unit name is
a word and no keyword. Behind its package a class has methods of distinct names, each of them a name in
its language. -/
theorem generated_names_distinct {settings : Settings} (accepted : settings.Accepted)
    {source : String} {program : Program} (parsed : parse source = .ok program)
    (sourceName : Option String) (outputName : Option RawText) :
    (∃ code, text .python settings sourceName outputName program =
        .ok (String.ofList (written (headLines .python settings sourceName ++ code))) ∧
      Declares definedName? code (moduleLevelNames settings program) ∧
      (moduleLevelNames settings program).Nodup) ∧
    settings.targets.python.fixtureName ≠ "response" ∧
    (∀ unit ∈ unitNames (program.tests.map (·.name)),
      (∃ c cs, unit.toList = c :: cs ∧ isWordStart c ∧ ∀ d ∈ cs, isWordPart d) ∧
        unit ∉ pythonKeywords) ∧
    (∀ file, text .java settings sourceName outputName program = .ok file →
      ∃ code, file = String.ofList (written (headLines .java settings sourceName ++ code)) ∧
        Declares methodName? code (methodNames program) ∧ (methodNames program).Nodup) ∧
    ∀ unit ∈ unitNames (program.tests.map (·.name)), isJavaName unit := by
  have parts := isWordPart_of_parse parsed
  obtain ⟨listed, prefixed⟩ := Bool.or_eq_false_iff.1 accepted.names.1.2
  have fixture : settings.targets.python.fixtureName ∉ moduleNames := by simpa using listed
  have reserved : ["httpx", "pytest", "BASE_URL", "TIMEOUT", "DEFAULT_HEADERS"] ⊆ moduleNames := by
    decide
  have plain : ∀ name ∈ ["httpx", "pytest", "BASE_URL", "TIMEOUT", "DEFAULT_HEADERS"],
      "test".toList.isPrefixOf name.toList = false := by
    decide
  have distinct : (moduleLevelNames settings program).Nodup := by
    refine nodup_append_unitNames (List.nodup_append.2 ⟨by decide, List.nodup_singleton _, ?_⟩)
      (List.forall_mem_append.2 ⟨plain, List.forall_mem_singleton.2 prefixed⟩) _
    intro name hm other ho same
    rw [List.mem_singleton.1 ho] at same
    exact fixture (same ▸ reserved hm)
  refine ⟨?_, ?_, ?_, ?_, fun unit hu => isJavaName_of_mem_unitNames parts hu⟩
  · obtain ⟨code, made, declared⟩ := declares_module sourceName outputName accepted
      (allWritable_of_parse parsed .python) parts
    exact ⟨code, made, declared, distinct⟩
  · rintro same
    exact fixture (by rw [same]; decide)
  · intro unit hu
    obtain ⟨cs, chars, rest⟩ := exists_cons_of_mem_unitNames parts hu
    exact ⟨⟨'t', cs, chars, by decide, rest⟩, not_mem_of_mem_unitNames (by decide +kernel) hu⟩
  · intro file made
    obtain ⟨code, whole, declared⟩ := declares_class sourceName outputName accepted parts made
    exact ⟨code, whole, declared, nodup_append_unitNames (by decide) (by decide) _⟩

/-- Three tests whose names run into one another with the numbers that set them apart, and a fixture
that is almost called `response`. -/
theorem generated_names_distinct_numbered :
    let settings : Settings := { targets := { python := { fixtureName := "response_" } } }
    let program : Program := ⟨[⟨"A_2", [], []⟩, ⟨"A", [], []⟩, ⟨"A", [], []⟩]⟩
    settings.Accepted ∧
    parse "test A_2 \x7b\x7d test A \x7b\x7d test A \x7b\x7d" = .ok program ∧
    (∃ code, text .python settings none none program =
        .ok (String.ofList (written (headLines .python settings none ++ code))) ∧
      Declares definedName? code ["httpx", "pytest", "BASE_URL", "TIMEOUT", "DEFAULT_HEADERS",
        "response_", "test_A_2", "test_A", "test_A_3"]) ∧
    ∃ file code, text .java settings none none program = .ok file ∧
      file = String.ofList (written (headLines .java settings none ++ code)) ∧
      Declares methodName? code ["setUp", "send", "test_A_2", "test_A", "test_A_3"] := by
  intro settings program
  have accepted : settings.Accepted :=
    ⟨.mapping [(.text "targets", .mapping [(.text "python",
      .mapping [(.text "fixture_name", .text "response_")])])], rfl⟩
  have parsed : parse "test A_2 \x7b\x7d test A \x7b\x7d test A \x7b\x7d" = .ok program := by
    decide +kernel
  have units : unitNames (program.tests.map (·.name)) = ["test_A_2", "test_A", "test_A_3"] := by
    decide +kernel
  have produced : ∃ file, text .java settings none none program = .ok file := ⟨_, rfl⟩
  obtain ⟨⟨code, made, declared, -⟩, -, -, java, -⟩ :=
    generated_names_distinct accepted parsed none none
  obtain ⟨file, made'⟩ := produced
  obtain ⟨code', whole, declared', -⟩ := java file made'
  rw [moduleLevelNames, units] at declared
  rw [methodNames, units] at declared'
  exact ⟨accepted, parsed, ⟨code, made, declared⟩, file, code', made', whole, declared'⟩

end HttpSuite.Emit
