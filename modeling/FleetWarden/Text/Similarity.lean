
/-!
# Similar words

Two words are as similar as the share of their characters that match: the longest common run is
taken first, and then the parts before it and after it are matched in the same way.
-/

namespace FleetWarden.Text

/-- The length of the common beginning of two words. -/
def commonStart : List Char → List Char → Nat
  | a :: as, b :: bs => if a = b then commonStart as bs + 1 else 0
  | _, _ => 0

/-- A common run: where it begins in either word, and its length. -/
structure Run where
  left : Nat
  right : Nat
  size : Nat
deriving DecidableEq, Repr

/-- The longer of two runs, the earlier one if they are of a length. -/
def Run.better (best next : Run) : Run := if best.size < next.size then next else best

/-- The longest common run of two words, the leftmost in the first word and then in the second. -/
def longestRun (a b : List Char) : Run :=
  (List.range a.length).foldl (fun best i =>
    (List.range b.length).foldl (fun best j =>
      best.better ⟨i, j, commonStart (a.drop i) (b.drop j)⟩) best) ⟨0, 0, 0⟩

/-- The number of characters that match, with so many runs taken at most below each other. -/
def matching : Nat → List Char → List Char → Nat
  | 0, _, _ => 0
  | depth + 1, a, b =>
    let run := longestRun a b
    if run.size = 0 then 0
    else matching depth (a.take run.left) (b.take run.right) + run.size +
      matching depth (a.drop (run.left + run.size)) (b.drop (run.right + run.size))

/-- Twice the matching characters of two words, and their characters together. -/
def similarity (a b : String) : Nat × Nat :=
  (2 * matching (a.length + 1) a.toList b.toList, a.length + b.length)

/-- Whether one share is less than another. -/
def shareLt (x y : Nat × Nat) : Bool := x.1 * y.2 < y.1 * x.2

/-- Whether words are close: three fifths of their characters match. -/
def isClose (share : Nat × Nat) : Bool := 3 * share.2 ≤ 5 * share.1

/-- The order of suggestions: the more similar first, then the later in the alphabet. -/
def suggestedBefore (x y : (Nat × Nat) × String) : Bool :=
  shareLt y.1 x.1 || (!shareLt x.1 y.1 && y.2 ≤ x.2)

/-- The three words at most that are closest to a word. -/
def closeTo (word : String) (words : List String) : List String :=
  let shares := words.map fun w => (similarity w word, w)
  (((shares.filter fun p => isClose p.1).mergeSort suggestedBefore).take 3).map (·.2)

end FleetWarden.Text
