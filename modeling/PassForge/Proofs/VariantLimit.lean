import Mathlib.Data.List.Perm.Subperm
import PassForge.Proofs.Independence

/-!
# The limit on variants

Combinations are counted up to the largest word of 64 bits, and the count is compared with the limit
before any combination is looked at.  A limit below that word is exceeded by the count exactly if
the combinations exceed it, however many there are; a limit that is not below it never is.

Two numbers come out of an enumeration that is not refused.

* `GroupTable.size_le_of_enumerate`: combinations may merge, so there are at most as many variants.
* `VariantSet.length_ordered`: one more variant may be emitted than was found, the one without
  keywords.  `GroupTable.empty_mem_map_ofChoice_iff` says when it is missing: if some group has no
  default option.

`GroupTable.enumerate_limited` has all of this.
-/

namespace PassForge

theorem maxCount_eq : maxCount = 2 ^ 64 - 1 := by decide

/-! ### What is emitted -/

theorem VariantSet.length_ordered (found : VariantSet) :
    found.ordered.length = found.size + if ∅ ∈ found.variants then 0 else 1 := by
  by_cases hempty : ∅ ∈ found.variants
  · -- what is emitted has been found, in another order
    rw [if_pos hempty]
    refine ((List.perm_ext_iff_of_nodup ordered_nodup found.distinct).2 fun v => ?_).length_eq
    rw [mem_ordered]
    constructor
    · rintro (⟨hv, -⟩ | rfl)
      · exact hv
      · exact hempty
    · intro hv
      by_cases h : v.isEmpty = true
      · exact .inr (NameSet.isEmpty_iff.1 h)
      · exact .inl ⟨hv, by simpa using h⟩
  · rw [if_neg hempty, size, ordered, List.length_append, List.length_singleton]
    have hall : (found.variants.filter fun v => !v.isEmpty) = found.variants := by
      refine List.filter_eq_self.2 fun v hv => ?_
      rw [Bool.not_eq_true', ← Bool.not_eq_true, NameSet.isEmpty_iff]
      rintro rfl
      exact hempty hv
    rw [hall]

/-! ### What is found -/

theorem KeywordSet.ofChoice_eq_empty_iff {r : List String} :
    ofChoice r = ∅ ↔ ∀ option ∈ r, option = defaultOption := by
  constructor
  · intro h option hoption
    by_contra hne
    have hmem : option ∈ ofChoice r := mem_ofChoice.2 ⟨hoption, hne⟩
    rw [h] at hmem
    exact NameSet.not_mem_empty hmem
  · intro h
    refine NameSet.ext fun k => iff_of_false (fun hk => ?_) NameSet.not_mem_empty
    obtain ⟨hkr, hne⟩ := mem_ofChoice.1 hk
    exact hne (h k hkr)

namespace GroupTable

variable {t : GroupTable} {limit : Nat} {found : VariantSet}

/-- The product has the variant without keywords exactly if every group can be left at its
default. -/
theorem empty_mem_map_ofChoice_iff (t : GroupTable) : ∅ ∈ t.tuples.map KeywordSet.ofChoice ↔
    ∀ g ∈ t.groups, defaultOption ∈ g.options := by
  simp only [List.mem_map, KeywordSet.ofChoice_eq_empty_iff, tuples, mem_choices_iff,
    List.forall₂_map_right_iff]
  constructor
  · rintro ⟨r, hr, hdefault⟩ g hg
    obtain ⟨hlength, hzip⟩ := List.forall₂_iff_zip.1 hr
    rw [← List.map_snd_zip hlength.ge] at hg
    obtain ⟨⟨option, g⟩, hmem, rfl⟩ := List.mem_map.1 hg
    exact hdefault option (List.of_mem_zip hmem).1 ▸ hzip hmem
  · intro h
    refine ⟨t.groups.map fun _ => defaultOption, ?_, by simp⟩
    rw [List.forall₂_map_left_iff, List.forall₂_same]
    exact h

theorem variants_of_enumerate (h : t.enumerate limit = .ok found) :
    found.variants = (t.tuples.map KeywordSet.ofChoice).eraseDups := by
  rw [enumerate_eq_foldl h, VariantSet.variants_foldl_insert, map_ofChoice_completed]

theorem length_tuples (t : GroupTable) :
    t.tuples.length = (t.groups.map KeywordGroup.size).prod := by
  rw [tuples, length_choices, List.map_map]
  rfl

/-- Combinations may merge, so there are no more variants than combinations. -/
theorem size_le_of_enumerate (h : t.enumerate limit = .ok found) :
    found.size ≤ (t.groups.map KeywordGroup.size).prod := by
  have hsub : found.variants ⊆ t.tuples.map KeywordSet.ofChoice := by
    rw [variants_of_enumerate h]
    exact fun v hv => List.mem_eraseDups.1 hv
  calc found.size ≤ (t.tuples.map KeywordSet.ofChoice).length :=
        (found.distinct.subperm hsub).length_le
    _ = (t.groups.map KeywordGroup.size).prod := by rw [List.length_map, length_tuples]

/-! ### The limit -/

theorem enumerate_eq_error_iff {e : VariantLimit} :
    t.enumerate limit = .error e ↔ limit < t.productSize ∧ e = ⟨t.productSize, limit⟩ := by
  unfold enumerate
  by_cases h : limit < t.productSize
  · simp [h, eq_comm]
  · simp [h]

/-- **The limit is exact.**  Combinations are counted as they are up to `2 ^ 64 - 1`.  A limit below
that number is exceeded exactly if there are more combinations, counted or not, and what is reported
is the count and the limit; any other limit is kept by all groups.  If enumeration is not refused,
there are at most as many variants as combinations; and as many are emitted as found, or one more if
no combination comes to the variant without keywords, which is to say that some group has no default
option. -/
theorem enumerate_limited (t : GroupTable) :
    t.productSize = min (t.groups.map KeywordGroup.size).prod (2 ^ 64 - 1) ∧
    (∀ limit, limit < 2 ^ 64 - 1 →
      ((∃ e, t.enumerate limit = .error e) ↔ limit < (t.groups.map KeywordGroup.size).prod) ∧
      ∀ e, t.enumerate limit = .error e → e = ⟨t.productSize, limit⟩) ∧
    (∀ limit, 2 ^ 64 - 1 ≤ limit → ∃ found, t.enumerate limit = .ok found) ∧
    ∀ limit found, t.enumerate limit = .ok found →
      found.size ≤ (t.groups.map KeywordGroup.size).prod ∧
      found.ordered.length =
        found.size + (if ∅ ∈ t.tuples.map KeywordSet.ofChoice then 0 else 1) ∧
      (∅ ∉ t.tuples.map KeywordSet.ofChoice ↔ ∃ g ∈ t.groups, defaultOption ∉ g.options) := by
  have hcount : t.productSize = min (t.groups.map KeywordGroup.size).prod (2 ^ 64 - 1) := by
    rw [productSize_eq, maxCount_eq]
  refine ⟨hcount, fun limit hlimit => ⟨?_, fun e he => (enumerate_eq_error_iff.1 he).2⟩,
    fun limit hlimit => ?_, fun limit found h => ⟨size_le_of_enumerate h, ?_, ?_⟩⟩
  · -- a limit below the largest count is below the count if it is below the product
    simp only [enumerate_eq_error_iff, exists_and_left, exists_eq, and_true]
    rw [hcount, lt_min_iff, and_iff_left hlimit]
  · have hkept : ¬ limit < t.productSize := by
      rw [hcount]
      omega
    exact ⟨_, if_neg hkept⟩
  · rw [VariantSet.length_ordered, variants_of_enumerate h]
    simp only [List.mem_eraseDups]
  · rw [empty_mem_map_ofChoice_iff]
    simp only [not_forall, exists_prop]

/-- Groups of two options each, the default and a keyword of its own. -/
def toggles (k : Nat) : GroupTable where
  groups := (List.range k).map fun i =>
    ⟨[defaultOption, String.ofList (List.replicate (i + 1) 'K')], by
      simp [defaultOption, String.ext_iff, List.replicate_succ]⟩
  offered := by simp [KeywordGroup.isEmpty]
  distinct := by
    rw [List.pairwise_map]
    refine List.nodup_range.imp fun {i j} hne => ?_
    rw [← Bool.not_eq_true]
    intro hsame
    have hmem := (mem_options_congr hsame (k := String.ofList (List.replicate (i + 1) 'K'))).1
      (by simp)
    have hname : List.replicate (i + 1) 'K' = List.replicate (j + 1) 'K' := by
      simpa [defaultOption, String.ext_iff, List.replicate_succ] using hmem
    exact hne (by simpa using congrArg List.length hname)

theorem prod_size_toggles (k : Nat) : ((toggles k).groups.map KeywordGroup.size).prod = 2 ^ k := by
  have hsizes : (toggles k).groups.map KeywordGroup.size = List.replicate k 2 := by
    rw [toggles, List.map_map, List.eq_replicate_iff]
    simp [KeywordGroup.size]
  rw [hsizes, List.prod_replicate]

/-- With one combination more than can be counted, the largest count is reported.  The six
combinations of `stone`, as many as allowed, are five variants and six branches. -/
theorem enumerate_limited_toggles :
    256 < 2 ^ 64 - 1 ∧ ((toggles 64).groups.map KeywordGroup.size).prod = 2 ^ 64 ∧
    (toggles 64).enumerate 256 = .error ⟨2 ^ 64 - 1, 256⟩ ∧
    ∃ found, Generator.stoneGroups.enumerate 6 = .ok found ∧ found.size ≤ 6 ∧
      found.ordered.length = found.size + 1 := by
  have hlimit : 256 < 2 ^ 64 - 1 := by decide
  have hprod := prod_size_toggles 64
  obtain ⟨hcount, hexact, -⟩ := enumerate_limited (toggles 64)
  obtain ⟨hfails, hreports⟩ := hexact 256 hlimit
  obtain ⟨e, he⟩ := hfails.2 (by rw [hprod]; decide)
  rw [hprod] at hcount
  refine ⟨hlimit, hprod, ?_, ?_⟩
  · rw [he, hreports e he, hcount]
    rfl
  · obtain ⟨-, hexact, -, hemitted⟩ := enumerate_limited Generator.stoneGroups
    have hkept : ¬ ∃ e, Generator.stoneGroups.enumerate 6 = .error e := by
      rw [(hexact 6 (by decide)).1]
      decide
    cases hfound : Generator.stoneGroups.enumerate 6 with
    | error e => exact absurd ⟨e, hfound⟩ hkept
    | ok found =>
      obtain ⟨hsize, hlength, hdefault⟩ := hemitted 6 found hfound
      refine ⟨found, rfl, hsize, ?_⟩
      rw [hlength, if_neg (hdefault.2 (by decide))]

end GroupTable

end PassForge
