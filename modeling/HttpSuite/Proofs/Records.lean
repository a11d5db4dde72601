import HttpSuite.Proofs.Accepted
import Mathlib.Data.List.Forall2

/-!
# Reading records back

A record that was written by the names of its fields gives each field back under its name
(`Data.field?_entriesOf`), so that a field is read as what was written for it (`Checked.field_eq_ok`,
`Checked.required_eq_ok`). A list is read item by item (`Checked.each_eq_ok`).
-/

namespace HttpSuite

namespace Data

variable {key name : String} {value : Data} {entries : List (Data × Data)}

theorem field?_cons :
    field? ((.text key, value) :: entries) name =
      if key == name then some value else field? entries name := by
  rw [field?, List.findSome?_cons]
  cases same : key == name <;> simp [same, field?]

/-- The entries of a record are its fields, with texts for keys. -/
def entriesOf (fields : List (String × Data)) : List (Data × Data) :=
  fields.map fun field => (.text field.1, field.2)

/-- Under a name stands the first field of that name. -/
theorem field?_entriesOf (fields : List (String × Data)) (name : String) :
    field? (entriesOf fields) name = fields.lookup name := by
  induction fields with
  | nil => rfl
  | cons field fields ih =>
    change field? ((.text field.1, field.2) :: entriesOf fields) name = _
    rw [field?_cons, List.lookup_cons, ih, BEq.comm]
    cases name == field.1 <;> rfl

end Data

namespace Checked

variable {α β : Type} {fields : List (String × Data)} {name : String} {value : Data} {a : α}
  {read : Data → Checked α}

theorem entries_record (record : String) (fields : List (String × Data)) :
    entries record (.record fields) = .ok (Data.entriesOf fields) := rfl

theorem andThen_ok (a : α) (check : α → Checked β) : andThen (.ok a) check = check a := rfl

/-- A field that was written is read from what was written. -/
theorem field_eq_ok {default : α} (written : fields.lookup name = some value) :
    field (Data.entriesOf fields) name default read = .ok a ↔ read value = .ok a := by
  rw [field, Data.field?_entriesOf, written]
  exact within_eq_ok

theorem required_eq_ok (written : fields.lookup name = some value) :
    required (Data.entriesOf fields) name read = .ok a ↔ read value = .ok a := by
  rw [required, Data.field?_entriesOf, written]
  exact within_eq_ok

/-- A list is read item by item. -/
theorem each_eq_ok {step : Nat → β → Step} {read : β → Checked α} {index : Nat} {items : List β}
    {values : List α} :
    each step read index items = .ok values ↔
      List.Forall₂ (fun item value => read item = .ok value) items values := by
  induction items generalizing index values with
  | nil =>
    rw [each, List.forall₂_nil_left_iff, Checked.ok.injEq]
    exact eq_comm
  | cons item items ih =>
    change List.cons <$> (read item).within _ <*> each step read (index + 1) items = .ok values ↔ _
    rw [map₂_eq_ok, List.forall₂_cons_left_iff]
    constructor
    · rintro ⟨value, rest, first, others, rfl⟩
      exact ⟨value, rest, within_eq_ok.1 first, ih.1 others, rfl⟩
    · rintro ⟨value, rest, first, others, rfl⟩
      exact ⟨value, rest, within_eq_ok.2 first, ih.2 others, rfl⟩

theorem items_eq_ok {items : List Data} {values : List α} :
    Checked.items read (.list items) = .ok values ↔
      List.Forall₂ (fun item value => read item = .ok value) items values :=
  each_eq_ok

end Checked

end HttpSuite
