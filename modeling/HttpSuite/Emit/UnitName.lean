/-!
# Names of generated tests

Every test becomes one unit of the generated file. Its name is `test_` and the test's name; a name
that is already taken gets the first number from 2 on that makes it new.
-/

namespace HttpSuite.Emit

/-- The name with a number. -/
def numbered (base : String) (k : Nat) : String :=
  base ++ "_" ++ toString k

/-- The first new name for a base, given the names taken. One of the numbers up to the count of names
taken, counted from 2, is free. -/
def freshName (taken : List String) (base : String) : String :=
  if taken.contains base then
    let numbers := (List.range (taken.length + 1)).map (· + 2)
    match numbers.find? fun k => !taken.contains (numbered base k) with
    | some k => numbered base k
    | none => base
  else base

/-- The names of the units for the given tests, after the names already taken. -/
def unitNamesFrom (taken : List String) : List String → List String
  | [] => []
  | name :: rest =>
    let unit := freshName taken ("test_" ++ name)
    unit :: unitNamesFrom (taken ++ [unit]) rest

/-- The names of the units for tests of the given names, in order. -/
def unitNames (names : List String) : List String :=
  unitNamesFrom [] names

end HttpSuite.Emit
