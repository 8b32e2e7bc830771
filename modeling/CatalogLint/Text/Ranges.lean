/-
Code point data as short lists in increasing order: plain ranges, and runs of characters that all move by one distance.
`inRanges` decides membership and `shift` moves a code point; both stop at the first range that starts too far.
-/
namespace CatalogLint.Text

/-- whether a code point lies in one of the ranges -/
def inRanges : List (Nat × Nat) → Nat → Bool
  | [], _ => false
  | (first, last) :: rest, n => if n < first then false else n ≤ last || inRanges rest n

/-- every `step`-th code point from `first` to `last`, each moved by `distance` -/
structure Run where
  first : Nat
  last : Nat
  step : Nat
  distance : Int

/-- whether a code point belongs to the run -/
def Run.covers (r : Run) (n : Nat) : Bool :=
  r.first ≤ n && n ≤ r.last && (n - r.first) % r.step == 0

/-- a code point moved by the run that covers it, or left in place -/
def shift : List Run → Nat → Nat
  | [], n => n
  | r :: rest, n => if n < r.first then n else if r.covers n then (n + r.distance).toNat else shift rest n

end CatalogLint.Text
