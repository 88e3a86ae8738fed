import PassForge.Variant.Groups
import PassForge.Variant.Set

/-!
# Enumerating variants

The variants of a pass are the combinations of one option of every keyword group.  They are run
through like the readings of an odometer with one wheel for each group: the last wheel turns
fastest, and a wheel that has gone round turns the one before it.  An odometer is listed with its
last wheel first.

The number of readings is compared with a limit before any of them is looked at.  It is counted up
to `maxCount` only.
-/

namespace PassForge

/-! ### Odometers -/

/-- A list of options and the one that is shown. -/
structure Wheel where
  options : List String
  position : Fin options.length
deriving Repr

namespace Wheel

/-- The option that is shown. -/
def shown (w : Wheel) : String := w.options.get w.position

/-- The number of options that come after the one shown. -/
def left (w : Wheel) : Nat := w.options.length - 1 - w.position

/-- The wheel at its first option. -/
def rewind (w : Wheel) : Wheel :=
  ⟨w.options, ⟨0, Nat.lt_of_le_of_lt (Nat.zero_le _) w.position.isLt⟩⟩

/-- The wheel at its next option, if there is one. -/
def next? (w : Wheel) : Option Wheel :=
  if h : w.position + 1 < w.options.length then some ⟨w.options, ⟨w.position + 1, h⟩⟩ else none

/-- The wheel of a group at its first option. -/
def ofGroup (g : KeywordGroup) (h : g.isEmpty = false) : Wheel :=
  ⟨g.options, ⟨0, by
    have hne : g.options ≠ [] := by simpa [KeywordGroup.isEmpty] using h
    exact List.length_pos_iff.2 hne⟩⟩

end Wheel

/-- Wheels, the fastest first. -/
abbrev Odometer := List Wheel

namespace Odometer

/-- The number of readings that come after the one shown. -/
def left : Odometer → Nat
  | [] => 0
  | w :: slower => w.left + w.options.length * left slower

/-- The next reading, if there is one. -/
def next? : Odometer → Option Odometer
  | [] => none
  | w :: slower =>
    match w.next? with
    | some w => some (w :: slower)
    | none => (next? slower).map (w.rewind :: ·)

theorem left_of_next? {o o' : Odometer} (h : o.next? = some o') : o.left = o'.left + 1 := by
  induction o generalizing o' with
  | nil => simp [next?] at h
  | cons w slower ih =>
    have hw := w.position.isLt
    by_cases hlt : w.position + 1 < w.options.length
    · have hnext : w.next? = some ⟨w.options, ⟨w.position + 1, hlt⟩⟩ := by simp [Wheel.next?, hlt]
      rw [next?, hnext] at h
      rw [← Option.some.inj h]
      simp only [left, Wheel.left]
      omega
    · have hnext : w.next? = none := by simp [Wheel.next?, hlt]
      rw [next?, hnext] at h
      obtain ⟨slower', hs, rfl⟩ := Option.map_eq_some_iff.1 h
      simp only [left, Wheel.left, Wheel.rewind, ih hs, Nat.mul_add, Nat.mul_one]
      omega

/-- The options shown, the slowest wheel first. -/
def reading (o : Odometer) : List String := (o.map Wheel.shown).reverse

/-- The positions of the wheels, the slowest first. -/
def positions (o : Odometer) : List Nat := (o.map fun w => w.position.val).reverse

/-- Adds the variants of the reading shown and of all that come after it.  After the last one every
wheel has gone round. -/
def runOut (o : Odometer) (found : VariantSet) : VariantSet × Odometer :=
  let found := found.insert (KeywordSet.ofChoice o.reading)
  match h : o.next? with
  | none => (found, o.map Wheel.rewind)
  | some o' =>
    have : o'.left < o.left := by
      rw [left_of_next? h]
      exact Nat.lt_succ_self _
    runOut o' found
termination_by o.left

/-- The variants found once all readings have come up. -/
def collect (o : Odometer) (found : VariantSet) : VariantSet := (o.runOut found).1

end Odometer

/-! ### Variants of groups -/

/-- The pass has too many variants. -/
structure VariantLimit where
  /-- The number of combinations, counted up to `maxCount`. -/
  count : Nat
  /-- The number allowed. -/
  limit : Nat
deriving DecidableEq, Repr

/-- The largest number of combinations that is counted, the largest word of 64 bits. -/
def maxCount : Nat := 18446744073709551615

namespace GroupTable

/-- The number of combinations, counted up to `maxCount`. -/
def productSize (t : GroupTable) : Nat :=
  t.groups.foldl (fun count g => min (count * g.size) maxCount) 1

/-- The groups to combine: those found and, unless it is among them, the group that offers only the
default option. -/
def completed (t : GroupTable) : GroupTable := t.insert .allDefault

/-- The odometer of a table, at its first reading. -/
def odometer (t : GroupTable) : Odometer :=
  (t.groups.attach.map fun ⟨g, hg⟩ => Wheel.ofGroup g (t.offered g hg)).reverse

/-- The variants of the groups, unless there are more combinations than allowed. -/
def enumerate (t : GroupTable) (limit : Nat) : Except VariantLimit VariantSet :=
  if limit < t.productSize then .error ⟨t.productSize, limit⟩
  else .ok (t.completed.odometer.collect .empty)

end GroupTable

end PassForge
