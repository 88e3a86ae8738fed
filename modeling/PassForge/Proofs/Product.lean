import Mathlib.Algebra.Order.BigOperators.GroupWithZero.List
import Mathlib.Algebra.Order.Ring.Nat
import Mathlib.Data.List.Forall2
import PassForge.Proofs.Enumeration

/-!
# Variants are the product of the groups

Enumeration goes through the choices of one option of every group and notes the variant of each, a
variant that has come up before only once.  Two things are shown of it here.

* `mem_choices_iff`, `pairwise_places_choices`: the choices are all tuples of options, in the
  lexicographic order of the places of the options in their groups.  As an order that is strict, it
  admits one list of all tuples only.
* `VariantSet.variants_foldl_insert`: adding variants one after the other leaves the first
  occurrence of each.

`GroupTable.enumerate_product` puts them together.  The group of the default option that
enumeration adds adds no keyword to any choice (`GroupTable.map_ofChoice_completed`), so the tuples
are those of the groups that were found.

That enumeration ends, and that a wheel stands at an option it has, is part of how odometers are
defined: turning one lowers `Odometer.left`, and a position is a `Fin` below the number of options.
-/

namespace PassForge

/-! ### Choices in order -/

theorem mem_choices_iff {ls : List (List String)} {r : List String} :
    r ∈ choices ls ↔ List.Forall₂ (fun a l => a ∈ l) r ls := by
  induction ls generalizing r with
  | nil => simp [choices]
  | cons l ls ih =>
    simp only [choices, List.mem_flatMap, List.mem_map, ih, List.forall₂_cons_right_iff]
    constructor
    · rintro ⟨a, ha, r', hr', rfl⟩
      exact ⟨a, r', ha, hr', rfl⟩
    · rintro ⟨a, r', ha, hr', rfl⟩
      exact ⟨a, ha, r', hr', rfl⟩

/-- The places of the options of a choice in their groups. -/
def places (groups : List KeywordGroup) (choice : List String) : List Nat :=
  List.zipWith (fun g option => g.options.idxOf option) groups choice

theorem pairwise_idxOf_lt {l : List String} (h : l.Nodup) :
    l.Pairwise fun a b => l.idxOf a < l.idxOf b := by
  rw [List.pairwise_iff_getElem]
  intro i j hi hj hij
  rw [h.idxOf_getElem i hi, h.idxOf_getElem j hj]
  exact hij

/-- **The choices stand in lexicographic order**: the last group varies fastest. -/
theorem pairwise_places_choices (groups : List KeywordGroup) :
    ((choices (groups.map KeywordGroup.options)).map (places groups)).Pairwise (· < ·) := by
  induction groups with
  | nil => exact List.pairwise_singleton _ _
  | cons g groups ih =>
    rw [List.map_cons, choices, List.map_flatMap, List.pairwise_flatMap]
    constructor
    · -- with one option of the first group, the others decide
      intro a _
      rw [List.map_map, List.pairwise_map]
      refine (List.pairwise_map.1 ih).imp fun {r r'} hr => ?_
      exact List.cons_lt_cons_iff.2 (.inr ⟨rfl, hr⟩)
    · -- an earlier option of the first group comes before a later one
      refine (pairwise_idxOf_lt g.distinct).imp fun {a b} hab x hx y hy => ?_
      simp only [List.mem_map] at hx hy
      obtain ⟨_, ⟨r, -, rfl⟩, rfl⟩ := hx
      obtain ⟨_, ⟨r', -, rfl⟩, rfl⟩ := hy
      exact List.cons_lt_cons_iff.2 (.inl hab)

/-! ### First occurrences -/

theorem VariantSet.variants_insert (s : VariantSet) (v : KeywordSet) :
    (s.insert v).variants = if v ∈ s.variants then s.variants else s.variants ++ [v] := by
  unfold insert
  by_cases h : v ∈ s
  · rw [dif_pos h, if_pos (show v ∈ s.variants from h)]
  · rw [dif_neg h, if_neg (show v ∉ s.variants from h)]

theorem eraseDups_concat {α : Type} [DecidableEq α] (l : List α) (a : α) :
    (l ++ [a]).eraseDups = if a ∈ l then l.eraseDups else l.eraseDups ++ [a] := by
  rw [List.eraseDups_append, List.cons_removeAll]
  by_cases h : a ∈ l <;> simp [h, List.removeAll, List.eraseDups_cons]

/-- **Adding variants in turn leaves the first occurrence of each.** -/
theorem VariantSet.variants_foldl_insert {β : Type} (f : β → KeywordSet) (l : List β) :
    (l.foldl (fun s b => s.insert (f b)) empty).variants = (l.map f).eraseDups := by
  induction l using List.reverseRecOn with
  | nil => rfl
  | append_singleton l b ih =>
    rw [List.foldl_concat, variants_insert, ih, List.map_append, List.map_singleton,
      eraseDups_concat]
    simp only [List.mem_eraseDups]

/-! ### The product -/

namespace GroupTable

/-- The tuples with an option of every group, in lexicographic order. -/
def tuples (t : GroupTable) : List (List String) := choices (t.groups.map KeywordGroup.options)

/-- The group of the default option adds nothing to the variants of the choices. -/
theorem map_ofChoice_completed (t : GroupTable) :
    (choices (t.completed.groups.map KeywordGroup.options)).map KeywordSet.ofChoice =
      t.tuples.map KeywordSet.ofChoice := by
  unfold tuples completed insert
  split
  · have hdefault : ∀ r : List String,
        KeywordSet.ofChoice (r ++ [defaultOption]) = KeywordSet.ofChoice r := by
      intro r
      rw [KeywordSet.ofChoice, KeywordSet.ofChoice, List.filter_append]
      simp
    have hoptions : KeywordGroup.allDefault.options = [defaultOption] := rfl
    rw [List.map_append, List.map_singleton, hoptions, choices_concat, List.map_flatMap]
    simp only [List.map_cons, List.map_nil, hdefault]
    exact List.flatMap_pure_eq_map _ _
  · rfl

theorem foldl_min_mul_eq {groups : List KeywordGroup} (hne : ∀ g ∈ groups, 0 < g.size)
    {count : Nat} (hcount : count ≤ maxCount) :
    groups.foldl (fun count g => min (count * g.size) maxCount) count =
      min (count * (groups.map KeywordGroup.size).prod) maxCount := by
  induction groups generalizing count with
  | nil => simpa using hcount
  | cons g groups ih =>
    have hrest : ∀ g ∈ groups, 0 < g.size := fun g hg => hne g (List.mem_cons_of_mem _ hg)
    have hpos : 0 < (groups.map KeywordGroup.size).prod :=
      List.prod_pos (by simpa using hrest)
    rw [List.foldl_cons, ih hrest (Nat.min_le_right _ _), List.map_cons, List.prod_cons,
      ← Nat.mul_assoc]
    rcases Nat.le_total (count * g.size) maxCount with hle | hle
    · rw [Nat.min_eq_left hle]
    · -- once the count has reached its largest number, it stays there
      rw [Nat.min_eq_right hle, Nat.min_eq_right (Nat.le_mul_of_pos_right _ hpos),
        Nat.min_eq_right (hle.trans (Nat.le_mul_of_pos_right _ hpos))]

theorem productSize_eq (t : GroupTable) :
    t.productSize = min (t.groups.map KeywordGroup.size).prod maxCount := by
  have hne : ∀ g ∈ t.groups, 0 < g.size := fun g hg =>
    List.length_pos_iff.2 (options_ne_nil (List.mem_map.2 ⟨g, hg, rfl⟩))
  rw [productSize, foldl_min_mul_eq hne (by decide), Nat.one_mul]

/-- **Variants are the product of the groups.**  Groups that have no more combinations than allowed,
counted up to `maxCount`, can be enumerated.  The variants found are the first occurrences among
those of all tuples of options, taken in lexicographic order.  So none of them has the default
option, no two have the same keywords, the vocabulary consists of all options but the default one,
and the variants are emitted in that order, with the one without keywords once and last. -/
theorem enumerate_product (t : GroupTable) {limit : Nat}
    (hlimit : min (t.groups.map KeywordGroup.size).prod maxCount ≤ limit) :
    (∀ r, r ∈ t.tuples ↔ List.Forall₂ (fun option g => option ∈ g.options) r t.groups) ∧
    (t.tuples.map (places t.groups)).Pairwise (· < ·) ∧
    ∃ found, t.enumerate limit = .ok found ∧
      found.variants = (t.tuples.map KeywordSet.ofChoice).eraseDups ∧
      (∀ v ∈ found.variants, defaultOption ∉ v) ∧
      (found.variants.Pairwise fun v w => ¬ ∀ k, k ∈ v ↔ k ∈ w) ∧
      (∀ k, k ∈ found.vocabulary ↔ k ≠ defaultOption ∧ ∃ g ∈ t.groups, k ∈ g.options) ∧
      found.ordered = (found.variants.filter fun v => v ≠ ∅) ++ [∅] ∧
      found.ordered.count ∅ = 1 := by
  obtain ⟨found, hfound⟩ : ∃ found, t.enumerate limit = .ok found := by
    rw [← productSize_eq] at hlimit
    exact ⟨_, if_neg (Nat.not_lt.2 hlimit)⟩
  refine ⟨fun r => ?_, pairwise_places_choices t.groups, found, hfound, ?_,
    fun v hv hdefault => ?_, ?_, fun k => mem_vocabulary_of_enumerate_iff hfound, ?_, ?_⟩
  · rw [tuples, mem_choices_iff, List.forall₂_map_right_iff]
  · rw [enumerate_eq_foldl hfound, VariantSet.variants_foldl_insert, map_ofChoice_completed]
  · obtain ⟨r, -, rfl⟩ := (mem_of_enumerate_iff hfound).1 hv
    exact (KeywordSet.mem_ofChoice.1 hdefault).2 rfl
  · exact found.distinct.imp fun hne hsame => hne (NameSet.ext hsame)
  · refine congrArg (· ++ _) (List.filter_congr fun v _ => ?_)
    rw [Bool.eq_iff_iff, Bool.not_eq_true', ← Bool.not_eq_true, NameSet.isEmpty_iff,
      decide_eq_true_iff]
    rfl
  · exact List.count_eq_one_of_mem VariantSet.ordered_nodup
      (VariantSet.mem_ordered.2 (.inr rfl))

/-- The groups of `stone` share an option: six combinations, as many as allowed, are five variants,
all with keywords. -/
theorem enumerate_product_stone :
    min (Generator.stoneGroups.groups.map KeywordGroup.size).prod maxCount ≤ 6 ∧
    ∃ found, Generator.stoneGroups.enumerate 6 = .ok found ∧
      found.variants = [.ofList ["WET"], .ofList ["SNOW"], .ofList ["ICE"],
        .ofList ["SNOW", "WET"], .ofList ["ICE", "WET"]] ∧
      found.ordered.count ∅ = 1 := by
  have hlimit : min (Generator.stoneGroups.groups.map KeywordGroup.size).prod maxCount ≤ 6 := by
    decide
  obtain ⟨-, -, found, hfound, hvariants, -, -, -, -, hcount⟩ :=
    enumerate_product Generator.stoneGroups hlimit
  refine ⟨hlimit, found, hfound, hvariants.trans ?_, hcount⟩
  decide +kernel

end GroupTable

end PassForge
