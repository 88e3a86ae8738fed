/-!
# Bisection

`bisect` looks for an item in a list by halving.  A probe says of an item whether what is looked for
comes after it, is it, or comes before it.  The answer is a place of the item, or the place where it
would have to be inserted.
-/

namespace PassForge

/-- The answer of a search. -/
inductive Place where
  /-- The item stands here. -/
  | found (index : Nat)
  /-- The item is missing, and would stand here. -/
  | missing (index : Nat)
deriving DecidableEq, Repr

/-- Whether the item is there. -/
def Place.isFound : Place → Bool
  | found _ => true
  | missing _ => false

namespace Bisection

variable {α : Type} (probe : α → Ordering) (l : List α)

/-- Looks from position `low` to before position `high`. -/
def search (low high : Nat) (hhigh : high ≤ l.length) : Place :=
  if h : low < high then
    let middle := low + (high - low) / 2
    have hmiddle : middle < l.length := by omega
    match probe l[middle] with
    | .lt => search (middle + 1) high hhigh
    | .eq => .found middle
    | .gt => search low middle (Nat.le_of_lt hmiddle)
  else .missing low
termination_by high - low

end Bisection

/-- Looks through a whole list. -/
def bisect {α : Type} (probe : α → Ordering) (l : List α) : Place :=
  Bisection.search probe l 0 l.length (Nat.le_refl _)

end PassForge
