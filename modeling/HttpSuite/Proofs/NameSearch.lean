import HttpSuite.Proofs.UnitNames

/-!
# The search for unit names

A unit name is found by trying: first the bare name, then the name with 2, with 3 and so on, until one
is new. `unitNames_by_search` says what this gives for the tests of a file:

* **the search ends** — one of the first numbers is free (`FirstFree.number_le`), so trying one after
  the other comes to it (`FirstFree.search`);
* **each name from those before it** — the name of a test is found among the names of the tests in
  front of it (`getElem?_unitNamesFrom`), and further tests change nothing (`unitNamesFrom_take`).
-/

namespace HttpSuite.Emit

/-! ## One search -/

/-- A run of the search: a name is tried, and as long as it is taken the next number is. -/
inductive Search (taken : List String) (base : String) : String → Nat → String → Prop
  | free {name : String} {number : Nat} : name ∉ taken → Search taken base name number name
  | again {name found : String} {number : Nat} : name ∈ taken →
      Search taken base (numbered base number) (number + 1) found →
      Search taken base name number found

theorem search_numbers {taken : List String} {base : String} (steps first : Nat)
    (used : ∀ j < steps, numbered base (first + j) ∈ taken)
    (free : numbered base (first + steps) ∉ taken) :
    Search taken base (numbered base first) (first + 1) (numbered base (first + steps)) := by
  induction steps generalizing first with
  | zero => exact .free free
  | succ steps ih =>
    have next : first + (steps + 1) = first + 1 + steps := by omega
    rw [next] at free ⊢
    refine .again (used 0 (Nat.succ_pos steps)) (ih (first + 1) ?_ free)
    intro j hj
    have taken := used (j + 1) (Nat.succ_lt_succ hj)
    rwa [← Nat.add_assoc, Nat.add_right_comm] at taken

namespace FirstFree

variable {taken : List String} {base name : String}

/-- The search ends, with the first name that is not taken. -/
theorem search (h : FirstFree taken base name) : Search taken base base 2 name := by
  cases h with
  | bare free => exact .free free
  | @numbered k used two free least =>
    obtain ⟨steps, rfl⟩ := Nat.exists_eq_add_of_le two
    refine .again used (search_numbers steps 2 ?_ free)
    intro j hj
    exact least (2 + j) (Nat.le_add_right 2 j) (Nat.add_lt_add_left hj 2)

theorem eq_base (h : FirstFree taken base name) (free : base ∉ taken) : name = base := by
  cases h with
  | bare => rfl
  | numbered used => exact absurd used free

/-- A number is at most one more than there are names taken. -/
theorem number_le (h : FirstFree taken base name) (used : base ∈ taken) :
    ∃ k, name = Emit.numbered base k ∧ 2 ≤ k ∧ k ≤ taken.length + 1 ∧
      ∀ j, 2 ≤ j → j < k → Emit.numbered base j ∈ taken := by
  cases h with
  | bare free => exact absurd used free
  | @numbered k _ two free least =>
    refine ⟨k, rfl, two, ?_, least⟩
    obtain ⟨j, small, new⟩ := exists_free_number used
    by_contra! large
    exact new (least (j + 2) (Nat.le_add_left 2 j) (by omega))

end FirstFree

/-! ## All names -/

theorem getElem?_unitNamesFrom {names : List String} {name : String} {i : Nat}
    (h : names[i]? = some name) (taken : List String) :
    (unitNamesFrom taken names)[i]? =
      some (freshName (taken ++ (unitNamesFrom taken names).take i) ("test_" ++ name)) := by
  induction names generalizing taken i with
  | nil => cases h
  | cons first names ih =>
    cases i with
    | zero =>
      obtain rfl := Option.some.inj h
      rw [List.take_zero, List.append_nil]
      rfl
    | succ i =>
      have later := ih h (taken ++ [freshName taken ("test_" ++ first)])
      rwa [List.append_assoc, List.singleton_append] at later

theorem unitNamesFrom_take (taken names : List String) (i : Nat) :
    unitNamesFrom taken (names.take i) = (unitNamesFrom taken names).take i := by
  induction names generalizing taken i with
  | nil => rw [List.take_nil, unitNamesFrom, List.take_nil]
  | cons name names ih =>
    cases i with
    | zero => rfl
    | succ i => exact congrArg (_ :: ·) (ih _ i)

/-- **Unit names by search.** There is a name for each test, and no name twice. The name of a test is
where the search among the names before it ends: the bare name if that is new, and otherwise the name
with the least number from 2 on that makes it new, which is at most one more than there are names
before it. It depends on no later test. -/
theorem unitNames_by_search (names : List String) :
    (unitNames names).length = names.length ∧
    (unitNames names).Nodup ∧
    (∀ i name, names[i]? = some name →
      let earlier := (unitNames names).take i
      let base := "test_" ++ name
      ∃ unit, (unitNames names)[i]? = some unit ∧ Search earlier base base 2 unit ∧
        unit ∉ earlier ∧
        (base ∉ earlier → unit = base) ∧
        (base ∈ earlier → ∃ k, unit = base ++ "_" ++ toString k ∧ 2 ≤ k ∧ k ≤ i + 1 ∧
          ∀ j, 2 ≤ j → j < k → base ++ "_" ++ toString j ∈ earlier)) ∧
    ∀ i others, others.take (i + 1) = names.take (i + 1) →
      (unitNames others)[i]? = (unitNames names)[i]? := by
  refine ⟨length_unitNames names, nodup_unitNames names, ?_, ?_⟩
  · intro i name h earlier base
    have found := freshName_firstFree earlier base
    refine ⟨freshName earlier base, getElem?_unitNamesFrom h [], found.search, found.not_mem,
      found.eq_base, ?_⟩
    intro used
    obtain ⟨k, numbered, two, bound, least⟩ := found.number_le used
    have room : earlier.length ≤ i := List.length_take_le i _
    exact ⟨k, numbered, two, by omega, least⟩
  · intro i others same
    have front : ∀ list : List String,
        (unitNames list)[i]? = (unitNames (list.take (i + 1)))[i]? := by
      intro list
      rw [unitNames, unitNames, unitNamesFrom_take, List.getElem?_take_of_lt (Nat.lt_succ_self i)]
    rw [front others, same, ← front]

/-- A name that looks numbered takes the number of another: of four tests the last needs a 4, the
greatest number that a fourth test can need. -/
theorem unitNames_by_search_at_bound :
    unitNames ["A", "A_2", "A", "A"] = ["test_A", "test_A_2", "test_A_3", "test_A_4"] ∧
    Search ["test_A", "test_A_2", "test_A_3"] "test_A" "test_A" 2 "test_A_4" := by
  have units : unitNames ["A", "A_2", "A", "A"] = ["test_A", "test_A_2", "test_A_3", "test_A_4"] := by
    decide
  obtain ⟨-, -, each, -⟩ := unitNames_by_search ["A", "A_2", "A", "A"]
  obtain ⟨unit, at_last, search, -⟩ := each 3 "A" rfl
  rw [units] at at_last search
  obtain rfl := Option.some.inj at_last
  exact ⟨units, search⟩

end HttpSuite.Emit
