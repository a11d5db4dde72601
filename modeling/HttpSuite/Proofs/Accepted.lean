import HttpSuite.Emit.JavaClass
import HttpSuite.Proofs.RawTexts
import HttpSuite.Settings
import Mathlib.Logic.Basic

/-!
# Accepted settings

Settings are accepted if they are what some data reads as. A reading that succeeds went through all
its checks, so a property that the default of a field has and that its check ensures holds of the
field (`Checked.of_field`). Of this kind are the names in accepted settings: the fixture has a name of
Python's that no other name of a module is equal to, and the class, whether the settings or the output
name it, one of Java's. Such names hold no character that could end a line or open a literal.
-/

namespace HttpSuite

/-! ## Readings that succeed -/

namespace Checked

variable {α β γ δ : Type} {a : α} {b : β} {reading : Checked α}

theorem map_eq_ok {f : α → β} : f <$> reading = .ok b ↔ ∃ a, reading = .ok a ∧ f a = b := by
  show Checked.map f reading = .ok b ↔ _
  cases reading <;> simp [Checked.map]

theorem seq_eq_ok {f : Checked (α → β)} :
    f <*> reading = .ok b ↔ ∃ g a, f = .ok g ∧ reading = .ok a ∧ g a = b := by
  show Checked.seq f reading = .ok b ↔ _
  cases f <;> cases reading <;> simp [Checked.seq]

/-- A value of two fields is read as what they are read as. -/
theorem map₂_eq_ok {f : α → β → γ} {first : Checked α} {second : Checked β} {c : γ} :
    f <$> first <*> second = .ok c ↔ ∃ a b, first = .ok a ∧ second = .ok b ∧ f a b = c := by
  rw [seq_eq_ok]
  constructor
  · rintro ⟨g, b, built, secondOk, rfl⟩
    obtain ⟨a, firstOk, rfl⟩ := map_eq_ok.1 built
    exact ⟨a, b, firstOk, secondOk, rfl⟩
  · rintro ⟨a, b, firstOk, secondOk, rfl⟩
    exact ⟨f a, b, map_eq_ok.2 ⟨a, firstOk, rfl⟩, secondOk, rfl⟩

theorem map₃_eq_ok {f : α → β → γ → δ} {first : Checked α} {second : Checked β} {third : Checked γ}
    {d : δ} :
    f <$> first <*> second <*> third = .ok d ↔
      ∃ a b c, first = .ok a ∧ second = .ok b ∧ third = .ok c ∧ f a b c = d := by
  rw [seq_eq_ok]
  constructor
  · rintro ⟨g, c, built, thirdOk, rfl⟩
    obtain ⟨a, b, firstOk, secondOk, rfl⟩ := map₂_eq_ok.1 built
    exact ⟨a, b, c, firstOk, secondOk, thirdOk, rfl⟩
  · rintro ⟨a, b, c, firstOk, secondOk, thirdOk, rfl⟩
    exact ⟨f a b, c, map₂_eq_ok.2 ⟨a, b, firstOk, secondOk, rfl⟩, thirdOk, rfl⟩

theorem andThen_eq_ok {check : α → Checked β} :
    reading.andThen check = .ok b ↔ ∃ a, reading = .ok a ∧ check a = .ok b := by
  cases reading <;> simp [andThen]

theorem within_eq_ok {step : Step} : reading.within step = .ok a ↔ reading = .ok a := by
  cases reading <;> simp [within]

theorem eq_mapping_of_entries {record : String} {data : Data} {found : List (Data × Data)}
    (h : entries record data = .ok found) : data = .mapping found := by
  unfold entries at h
  split at h
  · cases h
    rfl
  · cases h

/-- A field has its default, or it was read from the value that stands under its name. -/
theorem cases_of_field {entries : List (Data × Data)} {name : String} {default : α}
    {read : Data → Checked α} (h : field entries name default read = .ok a) :
    (Data.field? entries name = none ∧ a = default) ∨
      ∃ value, Data.field? entries name = some value ∧ read value = .ok a := by
  rw [field] at h
  split at h
  · rename_i absent
    cases h
    exact .inl ⟨absent, rfl⟩
  · rename_i value there
    exact .inr ⟨value, there, within_eq_ok.1 h⟩

/-- What the default has and the check ensures holds of the field. -/
theorem of_field {P : α → Prop} {entries : List (Data × Data)} {name : String} {default : α}
    {read : Data → Checked α} (default_ok : P default)
    (read_ok : ∀ data a, read data = .ok a → P a) (h : field entries name default read = .ok a) :
    P a := by
  rcases cases_of_field h with ⟨-, rfl⟩ | ⟨value, -, found⟩
  · exact default_ok
  · exact read_ok value a found

end Checked

/-! ## Names -/

/-- No character outside identifiers stands in one. -/
theorem Text.not_mem_of_isIdentifier {cs : List Char} {d : Char} (h : isIdentifier cs)
    (start : isIdentifierStart d = false) (part : isIdentifierPart d = false) : d ∉ cs := by
  cases cs with
  | nil => exact List.not_mem_nil
  | cons c cs =>
    rw [isIdentifier, Bool.and_eq_true] at h
    intro hd
    rcases List.mem_cons.1 hd with rfl | hd
    · exact Bool.false_ne_true (start ▸ h.1)
    · exact Bool.false_ne_true (part ▸ List.all_eq_true.1 h.2 d hd)

theorem not_mem_of_isPythonName {name : String} {d : Char} (h : isPythonName name)
    (start : Text.isIdentifierStart d = false) (part : Text.isIdentifierPart d = false) :
    d ∉ name.toList := by
  rw [isPythonName, Bool.and_eq_true] at h
  exact Text.not_mem_of_isIdentifier h.1 start part

theorem not_mem_of_isJavaName {name : String} {d : Char} (h : isJavaName name) (dollar : d ≠ '$')
    (start : Text.isIdentifierStart d = false) (part : Text.isIdentifierPart d = false) :
    d ∉ name.toList := by
  rw [isJavaName, Bool.and_eq_true] at h
  intro hd
  exact Text.not_mem_of_isIdentifier h.1 start part (List.mem_map.2 ⟨d, hd, if_neg dollar⟩)

/-! ## Settings -/

/-- A name for the fixture: one of Python's that no other name of a module is equal to. -/
def IsFixtureName (name : String) : Prop :=
  isPythonName name ∧ clashesInModule name = false

/-- The name that a settings' reading lets through for the fixture. -/
theorem isFixtureName_of_ofData {data : Data} {options : PythonOptions}
    (h : PythonOptions.ofData data = .ok options) : IsFixtureName options.fixtureName := by
  obtain ⟨entries, -, h⟩ := Checked.andThen_eq_ok.1 h
  obtain ⟨name, field, rfl⟩ := Checked.map_eq_ok.1 h
  refine Checked.of_field (P := IsFixtureName) ⟨by decide, by decide⟩ ?_ field
  intro data name h
  obtain ⟨text, -, h⟩ := Checked.andThen_eq_ok.1 h
  split at h
  · cases h
  · split at h
    · cases h
    · cases h
      exact ⟨by simp_all, by simp_all⟩

theorem isJavaName_of_ofData {data : Data} {options : JavaOptions}
    (h : JavaOptions.ofData data = .ok options) : ∀ name ∈ options.className, isJavaName name := by
  obtain ⟨entries, -, h⟩ := Checked.andThen_eq_ok.1 h
  obtain ⟨package, className, -, field, rfl⟩ := Checked.map₂_eq_ok.1 h
  refine Checked.of_field (P := fun className => ∀ name ∈ className, isJavaName name) (by simp) ?_
    field
  intro data className h
  obtain ⟨text, -, h⟩ := Checked.andThen_eq_ok.1 h
  cases text with
  | none =>
    cases h
    simp
  | some text =>
    dsimp only at h
    split at h
    · next java =>
      cases h
      simp [java]
    · cases h

theorem names_of_ofData {data : Data} {options : TargetOptions}
    (h : TargetOptions.ofData data = .ok options) :
    IsFixtureName options.python.fixtureName ∧ ∀ name ∈ options.java.className, isJavaName name := by
  obtain ⟨entries, -, h⟩ := Checked.andThen_eq_ok.1 h
  obtain ⟨python, java, pythonField, javaField, rfl⟩ := Checked.map₂_eq_ok.1 h
  have fixture : IsFixtureName python.fixtureName :=
    Checked.of_field (P := fun options : PythonOptions => IsFixtureName options.fixtureName)
      ⟨by decide, by decide⟩ (fun _ _ => isFixtureName_of_ofData) pythonField
  have className : ∀ name ∈ java.className, isJavaName name :=
    Checked.of_field (P := fun options : JavaOptions => ∀ name ∈ options.className, isJavaName name)
      (by simp) (fun _ _ => isJavaName_of_ofData) javaField
  exact ⟨fixture, className⟩

/-! ## Classes that are named after the output -/

namespace Emit.JavaClass

variable {options : JavaOptions} {output : RawText}

/-- Without a name in the settings, a class is named by the stem of the output. -/
theorem className_of_output (unnamed : options.className = none) (ne : output ≠ []) {name : String} :
    className options (some output) = .ok name ↔
      isJavaName name ∧ (Path.ofText output).stem = RawText.ofText name := by
  simp only [className, unnamed, List.isEmpty_iff, if_neg ne]
  rw [← RawText.toText_eq_ok_iff]
  cases (Path.ofText output).stem.toText with
  | error fault => simp
  | ok stem =>
    by_cases java : isJavaName stem
    · simp only [java, if_true, Except.ok.injEq]
      exact ⟨fun same => ⟨same ▸ java, same⟩, And.right⟩
    · simp only [java, Bool.false_eq_true, if_false, reduceCtorEq, Except.ok.injEq, false_iff]
      rintro ⟨other, rfl⟩
      exact java other

theorem failure_of_output (unnamed : options.className = none) (ne : output ≠ []) {failure : Failure}
    (h : className options (some output) = .error failure) :
    failure = .className output (Path.ofText output).stem := by
  simp only [className, unnamed, List.isEmpty_iff, if_neg ne] at h
  split at h
  · split at h
    · cases h
    · exact (Except.error.inj h).symm
  · exact (Except.error.inj h).symm

end Emit.JavaClass

namespace Settings

/-- Settings that some data reads as. -/
def Accepted (settings : Settings) : Prop :=
  ∃ data, ofData data = .ok settings

variable {settings : Settings}

/-- Settings that were read have their parts from the fields for them. -/
theorem fields_of_ofData {data : Data} (read : ofData data = .ok settings) :
    ∃ entries, data = .mapping entries ∧
      Checked.field entries "codegen" {} Generation.ofData = .ok settings.generation ∧
      Checked.field entries "targets" {} TargetOptions.ofData = .ok settings.targets ∧
      Checked.field entries "logging" {} JournalOptions.ofData = .ok settings.journal := by
  obtain ⟨entries, found, read⟩ := Checked.andThen_eq_ok.1 read
  obtain ⟨withTargets, journal, read₂, journalField, rfl⟩ := Checked.seq_eq_ok.1 read
  obtain ⟨withGeneration, targets, read₁, targetsField, rfl⟩ := Checked.seq_eq_ok.1 read₂
  obtain ⟨_, _, generation, -, -, generationField, rfl⟩ := Checked.map₃_eq_ok.1 read₁
  exact ⟨entries, Checked.eq_mapping_of_entries found, generationField, targetsField, journalField⟩

theorem Accepted.names (h : settings.Accepted) :
    IsFixtureName settings.targets.python.fixtureName ∧
      ∀ name ∈ settings.targets.java.className, isJavaName name := by
  obtain ⟨data, read⟩ := h
  obtain ⟨entries, -, -, field, -⟩ := fields_of_ofData read
  exact Checked.of_field (P := fun options : TargetOptions =>
    IsFixtureName options.python.fixtureName ∧ ∀ name ∈ options.java.className, isJavaName name)
    ⟨⟨by decide, by decide⟩, by simp⟩ (fun _ _ => names_of_ofData) field

theorem Accepted.not_mem_fixtureName (h : settings.Accepted) {d : Char}
    (start : Text.isIdentifierStart d = false) (part : Text.isIdentifierPart d = false) :
    d ∉ settings.targets.python.fixtureName.toList :=
  not_mem_of_isPythonName h.names.1.1 start part

/-- The class has a name of Java's also when it is named after the output, or after nothing. -/
theorem Accepted.isJavaName_className (h : settings.Accepted) {outputName : Option RawText}
    {name : String} (named : Emit.JavaClass.className settings.targets.java outputName = .ok name) :
    isJavaName name := by
  have default : isJavaName Emit.JavaClass.defaultClassName := by decide
  cases given : settings.targets.java.className with
  | some chosen =>
    simp only [Emit.JavaClass.className, given, Except.ok.injEq] at named
    exact named ▸ h.names.2 chosen given
  | none =>
    cases outputName with
    | none =>
      simp only [Emit.JavaClass.className, given, Except.ok.injEq] at named
      exact named ▸ default
    | some output =>
      by_cases empty : output = []
      · simp only [Emit.JavaClass.className, given, empty, List.isEmpty_nil, if_true,
          Except.ok.injEq] at named
        exact named ▸ default
      · exact ((Emit.JavaClass.className_of_output given empty).1 named).1

end Settings

end HttpSuite
