/-!
# Similar words

How alike two words are is measured by their common parts: the longest one, and then what is common
to the left of it and to the right of it. A word that is not known is answered with those that are
like it.
-/

namespace HttpSuite.Similar

/-- The length of the common start of two words. -/
def commonStart : List Char → List Char → Nat
  | a :: as, b :: bs => if a == b then commonStart as bs + 1 else 0
  | _, _ => 0

/-- A common part: where it starts in each of two words, and its length. -/
structure Block where
  left : Nat
  right : Nat
  length : Nat

/-- The longest common part, the first of them in the first word and then in the second. -/
def longest (a b : List Char) : Block :=
  let candidates := (List.range a.length).flatMap fun i =>
    (List.range b.length).map fun j => (⟨i, j, commonStart (a.drop i) (b.drop j)⟩ : Block)
  candidates.foldl (fun best block => if best.length < block.length then block else best) ⟨0, 0, 0⟩

/-- The number of characters in common parts. Each part leaves shorter words on both sides, so the
length of the first word is fuel enough. -/
def matchedChars : (fuel : Nat) → List Char → List Char → Nat
  | 0, _, _ => 0
  | fuel + 1, a, b =>
    let block := longest a b
    if block.length = 0 then 0
    else
      matchedChars fuel (a.take block.left) (b.take block.right) + block.length +
        matchedChars fuel (a.drop (block.left + block.length)) (b.drop (block.right + block.length))

/-- How alike two words are, as a fraction. -/
structure Score where
  matched : Nat
  total : Nat

/-- How alike a known word and another one are. -/
def score (known word : String) : Score :=
  let a := known.toList
  let b := word.toList
  { matched := 2 * matchedChars a.length a b, total := a.length + b.length }

/-- Whether a score is at least three fifths. -/
def Score.isClose (score : Score) : Bool :=
  3 * score.total ≤ 5 * score.matched

/-- Whether one score is greater than another. -/
def Score.exceeds (a b : Score) : Bool :=
  b.matched * a.total < a.matched * b.total

/-- The three known words that are most like a word, as far as they are close to it, in order. -/
def suggestions (known : List String) (word : String) : List String :=
  let close := (known.map fun name => (score name word, name)).filter (·.1.isClose)
  let ranked := close.mergeSort fun a b =>
    a.1.exceeds b.1 || (!b.1.exceeds a.1 && decide (b.2 ≤ a.2))
  ((ranked.take 3).map (·.2)).mergeSort fun a b => decide (a ≤ b)

end HttpSuite.Similar
