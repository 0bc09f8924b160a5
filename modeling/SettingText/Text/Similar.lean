/-!
How similar two texts are: the longest run that both hold is taken out of both, and what lies to its
left and to its right is compared in the same way.
-/

namespace SettingText.Text

/-- How far two texts agree from their starts. -/
def commonStart : List Char → List Char → Nat
  | a :: as, b :: bs => if a = b then commonStart as bs + 1 else 0
  | _, _ => 0

/-- The longest run that two texts share: where it begins in each, and its length. Of several, the
    one that begins first in the first text, then in the second. -/
def longestRun (first second : List Char) : Nat × Nat × Nat :=
  let starts := (List.range first.length).flatMap fun i =>
    (List.range second.length).map fun j => (i, j, commonStart (first.drop i) (second.drop j))
  starts.foldl (fun best run => if best.2.2 < run.2.2 then run else best) (0, 0, 0)

/-- The number of characters in shared runs; `limit` is at least the length of the first text. -/
def sharedLength : (limit : Nat) → List Char → List Char → Nat
  | 0, _, _ => 0
  | limit + 1, first, second =>
    let (i, j, size) := longestRun first second
    if size = 0 then 0
    else size + sharedLength limit (first.take i) (second.take j) +
      sharedLength limit (first.drop (i + size)) (second.drop (j + size))

/-- How many characters of both texts together lie in shared runs, and how many there are. -/
def similarity (first second : String) : Nat × Nat :=
  let a := first.toList
  let b := second.toList
  (2 * sharedLength (a.length + 1) a b, a.length + b.length)

/-- At least three characters of five are shared. -/
def isSimilar (first second : String) : Bool :=
  let (shared, all) := similarity first second
  3 * all ≤ 5 * shared

/-- The candidates most similar to a word, at most three, in order of their texts. -/
def similarTo (word : String) (candidates : List String) : List String :=
  let scored := (candidates.filter (isSimilar · word)).map fun c => (similarity c word, c)
  let best := scored.mergeSort fun x y =>
    let left := x.1.1 * y.1.2
    let right := y.1.1 * x.1.2
    decide (right < left) || (left == right && decide (y.2 ≤ x.2))
  ((best.take 3).map (·.2)).mergeSort fun a b => decide (a ≤ b)

end SettingText.Text
