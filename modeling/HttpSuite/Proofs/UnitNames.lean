import HttpSuite.Proofs.ReadBack
import Mathlib.Data.List.Nodup
import Mathlib.Data.List.Perm.Subperm

/-!
# Unit names

No two units of a file have the same name (`nodup_unitNames`):

* **one name** — the name for a base is the base or, if that is taken, the base with the least number
  from 2 on that makes it new (`freshName_firstFree`). There is one, as there are more numbers to try
  than names taken (`exists_free_number`);
* **all names** — each name is new among those before it, so in front of every name there are only
  distinct ones (`nodup_append_unitNamesFrom`);
* **shape** — a name is `test_` and more (`exists_of_mem_unitNames`), and a run of letters, digits and
  underscores if the names of the tests are such runs (`isWordPart_of_mem_unitNames`).
-/

namespace HttpSuite.Emit

/-! ## One name -/

theorem numbered_injective {base : String} {j k : Nat} (h : numbered base j = numbered base k) :
    j = k :=
  natRepr_injective ((String.append_right_inj _).1 h)

theorem numbered_ne (base : String) (k : Nat) : numbered base k ≠ base := by
  intro h
  have length := congrArg String.length h
  rw [numbered, String.length_append, String.length_append] at length
  have mark : "_".length = 1 := rfl
  omega

/-- For a base that is taken there is a free number. -/
theorem exists_free_number {taken : List String} {base : String} (h : base ∈ taken) :
    ∃ k < taken.length, numbered base (k + 2) ∉ taken := by
  let names := (List.range taken.length).map fun k => numbered base (k + 2)
  have distinct : names.Nodup := by
    refine List.nodup_range.map_on ?_
    intro j _ k _ same
    exact Nat.add_right_cancel (numbered_injective same)
  have apart : base ∉ names := by
    intro hm
    obtain ⟨k, -, same⟩ := List.mem_map.1 hm
    exact numbered_ne base (k + 2) same
  by_contra! all
  -- the base and its numbered names do not fit among the names taken
  have known : base :: names ⊆ taken := by
    intro name hm
    rcases List.mem_cons.1 hm with rfl | hm
    · exact h
    · obtain ⟨k, hk, rfl⟩ := List.mem_map.1 hm
      exact all k (List.mem_range.1 hk)
  have fits := ((List.nodup_cons.2 ⟨apart, distinct⟩).subperm known).length_le
  rw [List.length_cons, List.length_map, List.length_range] at fits
  omega

/-- The first name for a base that is not taken. -/
inductive FirstFree (taken : List String) (base : String) : String → Prop
  | bare : base ∉ taken → FirstFree taken base base
  | numbered {k : Nat} : base ∈ taken → 2 ≤ k → numbered base k ∉ taken →
      (∀ j, 2 ≤ j → j < k → numbered base j ∈ taken) → FirstFree taken base (numbered base k)

theorem freshName_firstFree (taken : List String) (base : String) :
    FirstFree taken base (freshName taken base) := by
  rw [freshName]
  by_cases h : base ∈ taken
  · simp only [List.contains_iff_mem.2 h, if_true, List.find?_map]
    obtain ⟨free, below, hfree⟩ := exists_free_number h
    cases found : (List.range (taken.length + 1)).find?
        ((fun k => !taken.contains (numbered base k)) ∘ (· + 2)) with
    | none =>
      rw [List.find?_range_eq_none] at found
      have clash := found free (by omega)
      simp [hfree] at clash
    | some k =>
      obtain ⟨new, -, least⟩ := List.find?_range_eq_some.1 found
      refine .numbered h (Nat.le_add_left 2 k) (by simpa using new) ?_
      intro j two (before : j < k + 2)
      have earlier := least (j - 2) (by omega)
      simpa [Nat.sub_add_cancel two] using earlier
  · rw [if_neg (by simpa using h)]
    exact .bare h

theorem FirstFree.not_mem {taken : List String} {base name : String}
    (h : FirstFree taken base name) : name ∉ taken := by
  cases h with
  | bare new => exact new
  | numbered _ _ new _ => exact new

/-! ## All names -/

/-- Names that are distinct stay so with those given to further tests. -/
theorem nodup_append_unitNamesFrom {taken : List String} (h : taken.Nodup) (names : List String) :
    (taken ++ unitNamesFrom taken names).Nodup := by
  induction names generalizing taken with
  | nil => rwa [unitNamesFrom, List.append_nil]
  | cons name names ih =>
    have fresh := (freshName_firstFree taken ("test_" ++ name)).not_mem
    have grown : (taken ++ [freshName taken ("test_" ++ name)]).Nodup := by
      rw [List.nodup_append]
      refine ⟨h, List.nodup_singleton _, ?_⟩
      intro other hm unit hu same
      rw [List.mem_singleton.1 hu] at same
      exact fresh (same ▸ hm)
    have all := ih grown
    rwa [List.append_assoc, List.singleton_append] at all

theorem nodup_unitNames (names : List String) : (unitNames names).Nodup :=
  nodup_append_unitNamesFrom List.nodup_nil names

theorem exists_of_mem_unitNamesFrom {taken names : List String} {unit : String}
    (h : unit ∈ unitNamesFrom taken names) : ∃ rest, unit = "test_" ++ rest := by
  induction names generalizing taken with
  | nil => cases h
  | cons name names ih =>
    rcases List.mem_cons.1 h with rfl | h
    · rcases freshName_cases taken ("test_" ++ name) with fresh | ⟨k, fresh⟩
      · exact ⟨name, fresh⟩
      · refine ⟨name ++ ("_" ++ toString k), fresh.trans ?_⟩
        rw [numbered, String.append_assoc, String.append_assoc]
    · exact ih h

/-- Every unit name starts with `test_`. -/
theorem exists_of_mem_unitNames {names : List String} {unit : String} (h : unit ∈ unitNames names) :
    ∃ rest, unit = "test_" ++ rest :=
  exists_of_mem_unitNamesFrom h

theorem isWordPart_of_mem_unitNames {names : List String} {unit : String}
    (h : ∀ name ∈ names, ∀ c ∈ name.toList, isWordPart c) (hu : unit ∈ unitNames names) :
    ∀ c ∈ unit.toList, isWordPart c := by
  intro c hc
  by_contra other
  have digit : c.isDigit = false := by
    rw [Bool.eq_false_iff]
    intro digit
    exact other (by simp [isWordPart, Char.isAlphanum, digit])
  have front : c ∉ "test_".toList := by
    intro hm
    have parts : "test_".toList.all isWordPart := by decide
    exact other (List.all_eq_true.1 parts c hm)
  refine not_mem_unitNamesFrom digit front ?_ [] unit hu hc
  intro name hm hc
  exact other (h name hm c hc)

end HttpSuite.Emit
