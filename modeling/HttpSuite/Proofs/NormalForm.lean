import HttpSuite.Proofs.Records
import Mathlib.Data.List.DropRight
import Mathlib.Data.List.Nodup

/-!
# Normal settings

Reading settings brings them into normal form (`Settings.Normal`): the address does not end in a slash,
no two headers have the same name, and the names in the settings are names of their languages. What is
normal is left alone by every check, so settings that are written out and read again come back
unchanged. The main statement is `settings_read_once`: the settings that some data reads as are the
normal ones, and they are the fixed points of writing and reading.
-/

namespace HttpSuite

/-! ## Addresses -/

theorem getLast?_of_baseUrlOfData {data : Data} {url : String} (h : baseUrlOfData data = .ok url) :
    url.toList.getLast? ≠ some '/' := by
  obtain ⟨text, -, rfl⟩ := Checked.map_eq_ok.1 h
  change (String.ofList (text.toList.rdropWhile (· == '/'))).toList.getLast? ≠ some '/'
  rw [String.toList_ofList]
  intro slash
  have ne : text.toList.rdropWhile (· == '/') ≠ [] := by
    intro empty
    rw [empty] at slash
    cases slash
  rw [List.getLast?_eq_some_getLast ne] at slash
  exact List.rdropWhile_last_not _ _ ne (beq_iff_eq.2 (Option.some.inj slash))

theorem baseUrlOfData_text {url : String} (h : url.toList.getLast? ≠ some '/') :
    baseUrlOfData (.text url) = .ok url := by
  have kept : url.toList.rdropWhile (· == '/') = url.toList := by
    rw [List.rdropWhile_eq_self_iff]
    intro ne slash
    exact h (by rw [List.getLast?_eq_some_getLast ne, beq_iff_eq.1 slash])
  change Checked.ok (String.ofList (url.toList.rdropWhile (· == '/'))) = .ok url
  rw [kept, String.ofList_toList]

/-! ## Headers -/

namespace Checked

variable {entries more : List (String × String)} {entry : String × String}

theorem putText_of_not_mem (fresh : entry.1 ∉ entries.map Prod.fst) :
    putText entries entry = entries ++ [entry] := by
  rw [putText, if_neg]
  rw [List.any_eq_true]
  rintro ⟨old, hm, same⟩
  exact fresh (List.mem_map.2 ⟨old, hm, beq_iff_eq.1 same⟩)

/-- An entry whose key is there changes no key. -/
theorem keys_putText_of_mem (known : entry.1 ∈ entries.map Prod.fst) :
    (putText entries entry).map Prod.fst = entries.map Prod.fst := by
  have any : entries.any (·.1 == entry.1) = true := by
    obtain ⟨old, hm, same⟩ := List.mem_map.1 known
    exact List.any_eq_true.2 ⟨old, hm, beq_iff_eq.2 same⟩
  rw [putText, if_pos any, List.map_map]
  refine List.map_congr_left fun old _ => ?_
  by_cases same : old.1 = entry.1
  · simp [same]
  · simp [same]

theorem nodup_putText (h : (entries.map Prod.fst).Nodup) :
    ((putText entries entry).map Prod.fst).Nodup := by
  by_cases known : entry.1 ∈ entries.map Prod.fst
  · rw [keys_putText_of_mem known]
    exact h
  · rw [putText_of_not_mem known, List.map_append]
    exact h.append (List.nodup_singleton _) (List.disjoint_singleton.2 known)

theorem nodup_foldl_putText (h : (entries.map Prod.fst).Nodup) :
    ((more.foldl putText entries).map Prod.fst).Nodup := by
  induction more generalizing entries with
  | nil => exact h
  | cons entry more ih => exact ih (nodup_putText h)

/-- Entries with keys of their own are added one behind the other. -/
theorem foldl_putText (h : ((entries ++ more).map Prod.fst).Nodup) :
    more.foldl putText entries = entries ++ more := by
  induction more generalizing entries with
  | nil => rw [List.foldl_nil, List.append_nil]
  | cons entry more ih =>
    have fresh : entry.1 ∉ entries.map Prod.fst := by
      rw [List.map_append, List.map_cons] at h
      exact fun known => List.disjoint_of_nodup_append h known List.mem_cons_self
    -- the entry goes to the end, so the invariant holds with it on the other side
    rw [List.append_cons] at h ⊢
    rw [List.foldl_cons, putText_of_not_mem fresh, ih h]

theorem nodup_of_textMapping {data : Data} (h : textMapping data = .ok entries) :
    (entries.map Prod.fst).Nodup := by
  unfold textMapping at h
  split at h
  · obtain ⟨read, -, rfl⟩ := map_eq_ok.1 h
    exact nodup_foldl_putText List.nodup_nil
  · cases h

theorem textMapping_record (h : (entries.map Prod.fst).Nodup) :
    textMapping (.record (entries.map fun entry => (entry.1, .text entry.2))) = .ok entries := by
  have read : List.Forall₂ (fun item value => textEntry item = .ok value)
      (Data.entriesOf (entries.map fun entry => (entry.1, .text entry.2))) entries := by
    rw [Data.entriesOf, List.map_map, List.forall₂_map_left_iff]
    exact List.forall₂_same.2 fun entry _ => rfl
  exact map_eq_ok.2 ⟨entries, each_eq_ok.2 read, @foldl_putText [] entries h⟩

end Checked

/-! ## Names -/

theorem isFixtureName_iff {name : String} :
    IsFixtureName name ↔ (Text.isIdentifier name.toList ∧ name ∉ pythonKeywords) ∧
      name ∉ moduleNames ∧ ¬ "test".toList <+: name.toList := by
  rw [IsFixtureName, isPythonName, clashesInModule, Bool.and_eq_true, Bool.or_eq_false_iff,
    ← List.isPrefixOf_iff_prefix]
  simp only [Bool.not_eq_true', List.contains_eq_mem, decide_eq_false_iff_not, Bool.not_eq_true]

theorem fixtureNameOfData_text {name : String} (h : IsFixtureName name) :
    fixtureNameOfData (.text name) = .ok name := by
  simp [fixtureNameOfData, Checked.text, Checked.andThen_ok, h.1, h.2]

theorem optionalText_ofOption (text : Option String) :
    Checked.optionalText (.ofOption text) = .ok text := by
  cases text <;> rfl

theorem classNameOfData_ofOption {name : Option String} (h : ∀ n ∈ name, isJavaName n) :
    classNameOfData (.ofOption name) = .ok name := by
  rw [classNameOfData, optionalText_ofOption, Checked.andThen_ok]
  cases name with
  | none => rfl
  | some name => exact if_pos (h name rfl)

theorem Target.ofData_name (target : Target) : Target.ofData (.text target.name) = .ok target := by
  cases target <;> rfl

theorem Level.ofData_name (level : Level) : Level.ofData (.text level.name) = .ok level := by
  cases level <;> rfl

/-! ## Levels -/

theorem Level.mem_names_iff {name : String} :
    name ∈ ["DEBUG", "INFO", "WARNING", "ERROR", "CRITICAL"] ↔ ∃ level : Level, level.name = name := by
  constructor
  · intro mem
    obtain ⟨level, -, named⟩ := List.mem_map.1 (show name ∈ Level.all.map Level.name from mem)
    exact ⟨level, named⟩
  · rintro ⟨level, rfl⟩
    cases level <;> decide

theorem Level.ofName?_eq_some_iff {text : String} {level : Level} :
    Level.ofName? text = some level ↔ level.name = Text.upperCase text := by
  constructor
  · intro found
    have named := List.find?_some found
    exact beq_iff_eq.1 named
  · intro named
    rw [Level.ofName?, ← named]
    cases level <;> rfl

/-- A level is read from a text in any case, and from nothing else. -/
theorem Level.ofData_eq_ok_iff {data : Data} {level : Level} :
    Level.ofData data = .ok level ↔
      ∃ text, Checked.text data = .ok text ∧ level.name = Text.upperCase text := by
  rw [Level.ofData, Checked.andThen_eq_ok]
  refine exists_congr fun text => and_congr_right fun _ => ?_
  rw [← Level.ofName?_eq_some_iff]
  cases Level.ofName? text <;> simp [Checked.refuse]

/-- What stands in data under one name, and in that under another. -/
def Data.inner? (data : Data) (outer inner : String) : Option Data :=
  match data with
  | .mapping entries =>
    match Data.field? entries outer with
    | some (.mapping below) => Data.field? below inner
    | _ => none
  | _ => none

/-- The level of a journal is the default, or it was read from what stands under `level`. -/
theorem JournalOptions.level_of_ofData {data : Data} {options : JournalOptions}
    (h : JournalOptions.ofData data = .ok options) :
    ∃ entries, data = .mapping entries ∧
      Checked.field entries "level" .warning Level.ofData = .ok options.level := by
  obtain ⟨entries, found, h⟩ := Checked.andThen_eq_ok.1 h
  obtain ⟨level, json, field, -, rfl⟩ := Checked.map₂_eq_ok.1 h
  exact ⟨entries, Checked.eq_mapping_of_entries found, field⟩

/-! ## Writing and reading -/

/-- Write the settings of generated files. -/
def Generation.toData (generation : Generation) : Data :=
  .record [("base_url", .text generation.baseUrl), ("timeout_seconds", .float generation.timeout),
    ("default_headers",
      .record (generation.headers.map fun header => (header.1, .text header.2)))]

/-- Write the settings of the Python target. -/
def PythonOptions.toData (options : PythonOptions) : Data :=
  .record [("fixture_name", .text options.fixtureName)]

/-- Write the settings of the Java target. -/
def JavaOptions.toData (options : JavaOptions) : Data :=
  .record [("package", .ofOption options.package), ("class_name", .ofOption options.className)]

/-- Write the settings of the targets. -/
def TargetOptions.toData (options : TargetOptions) : Data :=
  .record [("python", options.python.toData), ("java", options.java.toData)]

/-- Write the settings of the journal. -/
def JournalOptions.toData (options : JournalOptions) : Data :=
  .record [("level", .text options.level.name), ("json_output", .bool options.json)]

theorem Settings.toData_eq (settings : Settings) :
    settings.toData = .record [("version", .text settings.version),
      ("target", .text settings.target.name), ("codegen", settings.generation.toData),
      ("targets", settings.targets.toData), ("logging", settings.journal.toData)] := rfl

theorem Generation.normal_of_ofData {data : Data} {generation : Generation}
    (h : Generation.ofData data = .ok generation) :
    generation.baseUrl.toList.getLast? ≠ some '/' ∧ (generation.headers.map Prod.fst).Nodup := by
  obtain ⟨entries, -, h⟩ := Checked.andThen_eq_ok.1 h
  obtain ⟨url, timeout, headers, urlField, -, headersField, rfl⟩ := Checked.map₃_eq_ok.1 h
  constructor
  · exact Checked.of_field (P := fun url => url.toList.getLast? ≠ some '/') (by decide)
      (fun _ _ => getLast?_of_baseUrlOfData) urlField
  · exact Checked.of_field (P := fun headers => (headers.map Prod.fst).Nodup) List.nodup_nil
      (fun _ _ => Checked.nodup_of_textMapping) headersField

theorem Generation.ofData_toData {generation : Generation}
    (baseUrl : generation.baseUrl.toList.getLast? ≠ some '/')
    (headers : (generation.headers.map Prod.fst).Nodup) :
    Generation.ofData generation.toData = .ok generation := by
  rw [ofData, toData, Checked.entries_record, Checked.andThen_ok]
  refine Checked.map₃_eq_ok.2 ⟨_, _, _, ?_, ?_, ?_, rfl⟩
  · exact (Checked.field_eq_ok rfl).2 (baseUrlOfData_text baseUrl)
  · exact (Checked.field_eq_ok rfl).2 rfl
  · exact (Checked.field_eq_ok rfl).2 (Checked.textMapping_record headers)

theorem PythonOptions.ofData_toData {options : PythonOptions}
    (h : IsFixtureName options.fixtureName) : PythonOptions.ofData options.toData = .ok options := by
  rw [ofData, toData, Checked.entries_record, Checked.andThen_ok]
  exact Checked.map_eq_ok.2 ⟨_, (Checked.field_eq_ok rfl).2 (fixtureNameOfData_text h), rfl⟩

theorem JavaOptions.ofData_toData {options : JavaOptions}
    (h : ∀ name ∈ options.className, isJavaName name) :
    JavaOptions.ofData options.toData = .ok options := by
  rw [ofData, toData, Checked.entries_record, Checked.andThen_ok]
  refine Checked.map₂_eq_ok.2 ⟨_, _, ?_, ?_, rfl⟩
  · exact (Checked.field_eq_ok rfl).2 (optionalText_ofOption _)
  · exact (Checked.field_eq_ok rfl).2 (classNameOfData_ofOption h)

theorem TargetOptions.ofData_toData {options : TargetOptions}
    (fixture : IsFixtureName options.python.fixtureName)
    (className : ∀ name ∈ options.java.className, isJavaName name) :
    TargetOptions.ofData options.toData = .ok options := by
  rw [ofData, toData, Checked.entries_record, Checked.andThen_ok]
  refine Checked.map₂_eq_ok.2 ⟨_, _, ?_, ?_, rfl⟩
  · exact (Checked.field_eq_ok rfl).2 (PythonOptions.ofData_toData fixture)
  · exact (Checked.field_eq_ok rfl).2 (JavaOptions.ofData_toData className)

/-- The format is written under its own name, and read there because `json` is absent. -/
theorem JournalOptions.ofData_toData (options : JournalOptions) :
    JournalOptions.ofData options.toData = .ok options := by
  rw [ofData, toData, Checked.entries_record, Checked.andThen_ok]
  refine Checked.map₂_eq_ok.2 ⟨_, _, ?_, ?_, rfl⟩
  · exact (Checked.field_eq_ok rfl).2 (Level.ofData_name _)
  · -- the lookup of `json` fails by computation
    rw [jsonOfEntries, Data.field?_entriesOf]
    exact (Checked.field_eq_ok rfl).2 rfl

/-! ## Normal settings -/

namespace Settings

/-- Settings that reading leaves as they are: the address is trimmed, every header has a name of its
own, the fixture has a name of Python's that is free in a module, and a class name is one of Java's. -/
structure Normal (settings : Settings) : Prop where
  baseUrl : settings.generation.baseUrl.toList.getLast? ≠ some '/'
  headers : (settings.generation.headers.map Prod.fst).Nodup
  fixture_identifier : Text.isIdentifier settings.targets.python.fixtureName.toList
  fixture_keyword : settings.targets.python.fixtureName ∉ pythonKeywords
  fixture_reserved : settings.targets.python.fixtureName ∉ moduleNames
  fixture_test : ¬ "test".toList <+: settings.targets.python.fixtureName.toList
  className : ∀ name ∈ settings.targets.java.className, isJavaName name

variable {settings : Settings}

theorem Accepted.normal (h : settings.Accepted) : settings.Normal := by
  obtain ⟨fixture, className⟩ := h.names
  obtain ⟨⟨identifier, keyword⟩, reserved, test⟩ := isFixtureName_iff.1 fixture
  obtain ⟨data, read⟩ := h
  obtain ⟨entries, -, field, -⟩ := fields_of_ofData read
  obtain ⟨baseUrl, headers⟩ := Checked.of_field (P := fun generation : Generation =>
    generation.baseUrl.toList.getLast? ≠ some '/' ∧ (generation.headers.map Prod.fst).Nodup)
    ⟨by decide, by simp⟩ (fun _ _ => Generation.normal_of_ofData) field
  exact ⟨baseUrl, headers, identifier, keyword, reserved, test, className⟩

theorem Normal.ofData_toData (h : settings.Normal) : ofData settings.toData = .ok settings := by
  have fixture : IsFixtureName settings.targets.python.fixtureName :=
    isFixtureName_iff.2
      ⟨⟨h.fixture_identifier, h.fixture_keyword⟩, h.fixture_reserved, h.fixture_test⟩
  rw [toData_eq, ofData, Checked.entries_record, Checked.andThen_ok]
  refine Checked.seq_eq_ok.2 ⟨_, _, Checked.seq_eq_ok.2 ⟨_, _,
    Checked.map₃_eq_ok.2 ⟨_, _, _, ?_, ?_, ?_, rfl⟩, ?_, rfl⟩, ?_, rfl⟩
  · exact (Checked.field_eq_ok rfl).2 rfl
  · exact (Checked.field_eq_ok rfl).2 (Target.ofData_name _)
  · exact (Checked.field_eq_ok rfl).2 (Generation.ofData_toData h.baseUrl h.headers)
  · exact (Checked.field_eq_ok rfl).2 (TargetOptions.ofData_toData fixture h.className)
  · exact (Checked.field_eq_ok rfl).2 (JournalOptions.ofData_toData _)

/-- The level of settings that were read is the one that the data name, or the default. -/
theorem level_of_ofData {data : Data} (read : ofData data = .ok settings) :
    (data.inner? "logging" "level" = none ∧ settings.journal.level = .warning) ∨
      ∃ asked, data.inner? "logging" "level" = some asked ∧
        Level.ofData asked = .ok settings.journal.level := by
  obtain ⟨entries, rfl, -, -, journal⟩ := fields_of_ofData read
  rcases Checked.cases_of_field journal with ⟨absent, default⟩ | ⟨value, there, found⟩
  · left
    rw [Data.inner?, absent, default]
    exact ⟨rfl, rfl⟩
  · obtain ⟨below, rfl, level⟩ := JournalOptions.level_of_ofData found
    rw [Data.inner?, there]
    rcases Checked.cases_of_field level with ⟨absent, default⟩ | ⟨asked, here, named⟩
    · exact .inl ⟨absent, default⟩
    · exact .inr ⟨asked, here, named⟩

/-- Settings that were read from any data are normal, and they are read from what is written for them,
headers in order. Their level is the default, or that with the name that the data give in any case; what
is accepted as a level is a text that is one of five names in upper case. In turn, all settings in normal
form are read from what is written for them. -/
theorem settings_read_once (settings : Settings) :
    (∀ data, ofData data = .ok settings →
      settings.Normal ∧ ofData settings.toData = .ok settings ∧
      ((data.inner? "logging" "level" = none ∧ settings.journal.level.name = "WARNING") ∨
        ∃ asked text, data.inner? "logging" "level" = some asked ∧ Checked.text asked = .ok text ∧
          settings.journal.level.name = Text.upperCase text)) ∧
    (settings.Normal → ofData settings.toData = .ok settings) ∧
    ∀ asked, (∃ level, Level.ofData asked = .ok level) ↔
      ∃ text, Checked.text asked = .ok text ∧
        Text.upperCase text ∈ ["DEBUG", "INFO", "WARNING", "ERROR", "CRITICAL"] := by
  refine ⟨fun data read => ?_, Normal.ofData_toData, fun asked => ?_⟩
  · have normal := Accepted.normal ⟨data, read⟩
    refine ⟨normal, normal.ofData_toData, ?_⟩
    rcases level_of_ofData read with ⟨absent, default⟩ | ⟨asked, there, named⟩
    · exact .inl ⟨absent, congrArg Level.name default⟩
    · obtain ⟨text, found, upper⟩ := Level.ofData_eq_ok_iff.1 named
      exact .inr ⟨asked, text, there, found, upper⟩
  · simp only [Level.ofData_eq_ok_iff, Level.mem_names_iff]
    constructor
    · rintro ⟨level, text, found, named⟩
      exact ⟨text, found, level, named⟩
    · rintro ⟨text, found, level, named⟩
      exact ⟨level, text, found, named⟩

/-- Settings spelled with an alias, slashes at the end, a decimal, a letter without a dot and a word,
and the ones that they are read as. -/
theorem settings_read_once_from_aliases :
    let data : Data := .record [("target", .text " PY\t"),
      ("codegen", .record [("base_url", .text "http://a//"), ("timeout_seconds", .text "2.5"),
        ("default_headers", .record [("B", .text "1"), ("A", .text "2")])]),
      ("logging", .record [("level", .text "ınfo"), ("json", .text "ON")])]
    let settings : Settings :=
      { generation := ⟨"http://a", .ofRatio false 5 2, [("B", "1"), ("A", "2")]⟩,
        journal := ⟨.info, true⟩ }
    ofData data = .ok settings ∧ settings.Normal ∧ ofData settings.toData = .ok settings ∧
      ∃ text, data.inner? "logging" "level" = some (.text text) ∧ Text.upperCase text = "INFO" := by
  intro data settings
  have read : ofData data = .ok settings := by rfl
  obtain ⟨normal, back, level⟩ := (settings_read_once settings).1 data read
  refine ⟨read, normal, back, "ınfo", rfl, ?_⟩
  rcases level with ⟨absent, -⟩ | ⟨asked, text, there, found, named⟩
  · cases absent
  · obtain rfl := Option.some.inj there
    cases found
    exact named.symm

end Settings

end HttpSuite
