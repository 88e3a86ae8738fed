import PassForge.Proofs.BranchSelection
import PassForge.Variant.Enumeration

/-!
# What enumeration finds

The odometer of a table of keyword groups runs through all choices of one option of every group, the
last group varying fastest: `choices` lists them by recursion over the groups, and
`enumerate_eq_foldl` says that enumeration adds the variants of these choices one after the other.
So the variants found are those of the choices (`mem_of_enumerate_iff`), and the vocabulary consists
of the options of all groups that are keywords (`mem_vocabulary_of_enumerate_iff`).

The readings that an odometer has still to show are listed by `Odometer.later`, by recursion over
the wheels; `later_of_next?_eq_some` is the step from one reading to the next.
-/

namespace PassForge

/-! ### Choices -/

/-- All choices of one item of each list, in lexicographic order: the last list varies fastest. -/
def choices : List (List String) → List (List String)
  | [] => [[]]
  | l :: ls => l.flatMap fun a => (choices ls).map (a :: ·)

theorem choices_concat (ls : List (List String)) (l : List String) :
    choices (ls ++ [l]) = (choices ls).flatMap fun r => l.map fun a => r ++ [a] := by
  induction ls with
  | nil =>
    rw [List.nil_append, choices, choices, List.flatMap_singleton, ← List.flatMap_pure_eq_map]
    rfl
  | cons l' ls ih =>
    simp only [List.cons_append, choices, ih, List.flatMap_assoc, List.map_flatMap,
      List.flatMap_map, List.map_map]
    rfl

theorem choices_ne_nil {ls : List (List String)} (hne : ∀ l ∈ ls, l ≠ []) : choices ls ≠ [] := by
  induction ls with
  | nil => simp [choices]
  | cons l ls ih =>
    obtain ⟨a, ha⟩ := List.exists_mem_of_ne_nil l (hne l List.mem_cons_self)
    obtain ⟨r, hr⟩ := List.exists_mem_of_ne_nil _ (ih fun l hl => hne l (List.mem_cons_of_mem _ hl))
    exact List.ne_nil_of_mem (List.mem_flatMap.2 ⟨a, ha, List.mem_map.2 ⟨r, hr, rfl⟩⟩)

theorem exists_mem_of_mem_choices {ls : List (List String)} {r : List String} {a : String}
    (hr : r ∈ choices ls) (ha : a ∈ r) : ∃ l ∈ ls, a ∈ l := by
  induction ls generalizing r with
  | nil =>
    rw [List.mem_singleton.1 hr] at ha
    exact absurd ha List.not_mem_nil
  | cons l ls ih =>
    obtain ⟨b, hb, hr⟩ := List.mem_flatMap.1 hr
    obtain ⟨r', hr', rfl⟩ := List.mem_map.1 hr
    rcases List.mem_cons.1 ha with rfl | ha
    · exact ⟨l, List.mem_cons_self, hb⟩
    · obtain ⟨l', hl', ha'⟩ := ih hr' ha
      exact ⟨l', List.mem_cons_of_mem _ hl', ha'⟩

theorem exists_mem_choices {ls : List (List String)} (hne : ∀ l ∈ ls, l ≠ []) {l : List String}
    (hl : l ∈ ls) {a : String} (ha : a ∈ l) : ∃ r ∈ choices ls, a ∈ r := by
  induction ls with
  | nil => exact absurd hl List.not_mem_nil
  | cons l' ls ih =>
    have hrest : ∀ l ∈ ls, l ≠ [] := fun l hl => hne l (List.mem_cons_of_mem _ hl)
    simp only [choices, List.mem_flatMap, List.mem_map]
    rcases List.mem_cons.1 hl with rfl | hl
    · obtain ⟨r, hr⟩ := List.exists_mem_of_ne_nil _ (choices_ne_nil hrest)
      exact ⟨a :: r, ⟨a, ha, r, hr, rfl⟩, List.mem_cons_self⟩
    · obtain ⟨b, hb⟩ := List.exists_mem_of_ne_nil l' (hne l' List.mem_cons_self)
      obtain ⟨r, hr, har⟩ := ih hrest hl
      exact ⟨b :: r, ⟨b, hb, r, hr, rfl⟩, List.mem_cons_of_mem _ har⟩

/-! ### Readings -/

namespace Wheel

/-- The options after the one shown. -/
def rest (w : Wheel) : List String := w.options.drop (w.position + 1)

theorem shown_cons_rest (w : Wheel) : w.options.drop w.position = w.shown :: w.rest :=
  List.drop_eq_getElem_cons w.position.isLt

theorem rest_of_next?_eq_none {w : Wheel} (h : w.next? = none) : w.rest = [] := by
  unfold next? at h
  split at h
  · cases h
  · exact List.drop_eq_nil_of_le (by omega)

theorem rest_of_next?_eq_some {w w' : Wheel} (h : w.next? = some w') :
    w'.options = w.options ∧ w.rest = w'.shown :: w'.rest := by
  unfold next? at h
  split at h
  · injection h with h
    subst h
    exact ⟨rfl, shown_cons_rest ⟨w.options, ⟨w.position + 1, by assumption⟩⟩⟩
  · cases h

theorem map_options_of_position_eq_zero {α : Type} {w : Wheel} (h : w.position.val = 0)
    (f : String → α) : w.options.map f = f w.shown :: w.rest.map f := by
  have hall : w.options = w.shown :: w.rest := by rw [← shown_cons_rest, h, List.drop_zero]
  exact congrArg (List.map f) hall

end Wheel

namespace Odometer

/-- The readings that come after the one shown. -/
def later : Odometer → List (List String)
  | [] => []
  | w :: slower =>
    (w.rest.map fun a => reading slower ++ [a]) ++
      (later slower).flatMap fun r => w.options.map fun a => r ++ [a]

theorem reading_cons (w : Wheel) (slower : Odometer) :
    reading (w :: slower) = reading slower ++ [w.shown] := by
  simp [reading]

theorem later_of_next?_eq_none {o : Odometer} (h : o.next? = none) : o.later = [] := by
  induction o with
  | nil => rfl
  | cons w slower ih =>
    rw [next?] at h
    cases hw : w.next? with
    | some w' =>
      rw [hw] at h
      cases h
    | none =>
      rw [hw] at h
      rw [later, Wheel.rest_of_next?_eq_none hw, ih (Option.map_eq_none_iff.1 h)]
      rfl

/-- The readings to come are the next one and those after it. -/
theorem later_of_next?_eq_some {o o' : Odometer} (h : o.next? = some o') :
    o.later = o'.reading :: o'.later := by
  induction o generalizing o' with
  | nil => cases h
  | cons w slower ih =>
    rw [next?] at h
    cases hw : w.next? with
    | some w' =>
      -- the fastest wheel turns
      rw [hw] at h
      injection h with h
      obtain ⟨hoptions, hrest⟩ := Wheel.rest_of_next?_eq_some hw
      rw [← h, reading_cons, later, later, hrest, hoptions]
      rfl
    | none =>
      -- it goes back to its first option, and a slower one turns
      rw [hw] at h
      obtain ⟨slower', hslower, rfl⟩ := Option.map_eq_some_iff.1 h
      rw [later, Wheel.rest_of_next?_eq_none hw, ih hslower, List.map_nil, List.nil_append,
        List.flatMap_cons, reading_cons, later]
      exact congrArg (· ++ _) (Wheel.map_options_of_position_eq_zero (w := w.rewind) rfl _)

/-- **Collecting adds the variants of all readings**, the one shown first. -/
theorem collect_eq_foldl (o : Odometer) (found : VariantSet) :
    o.collect found = (o.reading :: o.later).foldl
      (fun found r => found.insert (KeywordSet.ofChoice r)) found := by
  unfold collect
  fun_induction runOut o found with
  | case1 o found found' h =>
    rw [later_of_next?_eq_none h]
    rfl
  | case2 o found found' o' h _ ih =>
    rw [later_of_next?_eq_some h, ih]
    rfl

/-- An odometer at its start has all choices before it. -/
theorem reading_cons_later_eq_choices {o : Odometer} (h : ∀ w ∈ o, w.position.val = 0) :
    o.reading :: o.later = choices (o.map Wheel.options).reverse := by
  induction o with
  | nil => rfl
  | cons w slower ih =>
    rw [List.map_cons, List.reverse_cons, choices_concat,
      ← ih fun w hw => h w (List.mem_cons_of_mem _ hw), List.flatMap_cons, reading_cons, later,
      Wheel.map_options_of_position_eq_zero (h w List.mem_cons_self)]
    rfl

end Odometer

/-! ### Variants of groups -/

theorem KeywordSet.mem_ofChoice {k : String} {r : List String} :
    k ∈ ofChoice r ↔ k ∈ r ∧ k ≠ defaultOption := by
  simp [ofChoice]

namespace VariantSet

variable {v w : KeywordSet} {s : VariantSet}

theorem mem_variants_insert : v ∈ (s.insert w).variants ↔ v ∈ s.variants ∨ v = w := by
  unfold insert
  split
  · rename_i hw
    refine ⟨.inl, ?_⟩
    rintro (hv | rfl)
    · exact hv
    · exact hw
  · simp

theorem mem_variants_foldl_insert {β : Type} {f : β → KeywordSet} {l : List β} :
    v ∈ (l.foldl (fun s b => s.insert (f b)) s).variants ↔ v ∈ s.variants ∨ ∃ b ∈ l, v = f b := by
  induction l generalizing s with
  | nil => simp
  | cons b l ih =>
    rw [List.foldl_cons, ih, mem_variants_insert, or_assoc]
    simp

end VariantSet

namespace GroupTable

variable {t : GroupTable} {limit : Nat} {found : VariantSet}

theorem map_options_odometer (t : GroupTable) :
    (t.odometer.map Wheel.options).reverse = t.groups.map KeywordGroup.options := by
  rw [odometer, List.map_reverse, List.reverse_reverse, List.map_map]
  exact List.attach_map_val (f := KeywordGroup.options)

theorem position_odometer (t : GroupTable) : ∀ w ∈ t.odometer, w.position.val = 0 := by
  intro w hw
  rw [odometer, List.mem_reverse] at hw
  obtain ⟨⟨g, hg⟩, -, rfl⟩ := List.mem_map.1 hw
  rfl

/-- **Enumeration adds the variants of all choices**, in lexicographic order. -/
theorem enumerate_eq_foldl (h : t.enumerate limit = .ok found) :
    found = (choices (t.completed.groups.map KeywordGroup.options)).foldl
      (fun found r => found.insert (KeywordSet.ofChoice r)) .empty := by
  unfold enumerate at h
  split at h
  · cases h
  · injection h with h
    rw [← h, Odometer.collect_eq_foldl, Odometer.reading_cons_later_eq_choices
      t.completed.position_odometer, map_options_odometer]

theorem mem_of_enumerate_iff (h : t.enumerate limit = .ok found) {v : KeywordSet} :
    v ∈ found.variants ↔
      ∃ r ∈ choices (t.completed.groups.map KeywordGroup.options), v = KeywordSet.ofChoice r := by
  rw [enumerate_eq_foldl h, VariantSet.mem_variants_foldl_insert]
  exact or_iff_right List.not_mem_nil

theorem options_ne_nil {l : List String} (hl : l ∈ t.groups.map KeywordGroup.options) : l ≠ [] := by
  obtain ⟨g, hg, rfl⟩ := List.mem_map.1 hl
  simpa [KeywordGroup.isEmpty] using t.offered g hg

/-- An option is on offer in some group. -/
def Offers (t : GroupTable) (k : String) : Prop := ∃ g ∈ t.groups, k ∈ g.options

theorem mem_options_congr {g g' : KeywordGroup} (h : (g == g') = true) {k : String} :
    k ∈ g.options ↔ k ∈ g'.options := by
  have hsame : NameSet.ofList g.options = NameSet.ofList g'.options := eq_of_beq h
  rw [← NameSet.mem_ofList, hsame, NameSet.mem_ofList]

/-- What becomes of a group: it has no options, or it has been found before, or it comes last. -/
theorem insert_cases (t : GroupTable) (g : KeywordGroup) :
    g.isEmpty = true ∧ t.insert g = t ∨
    (∃ g' ∈ t.groups, (g' == g) = true ∧ t.insert g = t) ∨
    g.isEmpty = false ∧ (t.insert g).groups = t.groups ++ [g] := by
  by_cases h : g.isEmpty = false ∧ t.contains g = false
  · exact .inr (.inr ⟨h.1, by rw [insert, dif_pos h]⟩)
  · have heq : t.insert g = t := by rw [insert, dif_neg h]
    by_cases hempty : g.isEmpty = true
    · exact .inl ⟨hempty, heq⟩
    · have hfound : t.contains g = true := by
        by_contra hnotfound
        exact h ⟨by simpa using hempty, by simpa using hnotfound⟩
      obtain ⟨g', hg', hsame⟩ := List.any_eq_true.1 hfound
      exact .inr (.inl ⟨g', hg', hsame, heq⟩)

/-- Adding a group adds its options; where it is left out, another group offers them. -/
theorem offers_insert_iff {g : KeywordGroup} {k : String} :
    (t.insert g).Offers k ↔ t.Offers k ∨ k ∈ g.options := by
  rcases t.insert_cases g with ⟨hempty, heq⟩ | ⟨g', hg', hsame, heq⟩ | ⟨-, hgroups⟩
  · have hnil : g.options = [] := List.isEmpty_iff.1 hempty
    simp [heq, hnil]
  · rw [heq, or_iff_left_of_imp]
    intro hk
    exact ⟨g', hg', (mem_options_congr hsame).2 hk⟩
  · unfold Offers
    simp only [hgroups, List.mem_append, List.mem_singleton, or_and_right, exists_or,
      exists_eq_left]

theorem offers_insertAll_iff {l : List KeywordGroup} {k : String} :
    (t.insertAll l).Offers k ↔ t.Offers k ∨ ∃ g ∈ l, k ∈ g.options := by
  unfold insertAll
  induction l generalizing t with
  | nil => simp
  | cons g l ih =>
    rw [List.foldl_cons, ih, offers_insert_iff, or_assoc]
    simp

/-- **The vocabulary** consists of all options that are keywords. -/
theorem mem_vocabulary_of_enumerate_iff (h : t.enumerate limit = .ok found) {k : String} :
    k ∈ found.vocabulary ↔ k ≠ defaultOption ∧ t.Offers k := by
  have hcompleted : t.completed.Offers k ↔ t.Offers k ∨ k = defaultOption := by
    rw [completed, offers_insert_iff]
    simp [KeywordGroup.allDefault, KeywordGroup.ofOptions]
  rw [VariantSet.mem_vocabulary]
  constructor
  · rintro ⟨v, hv, hk⟩
    obtain ⟨r, hr, rfl⟩ := (mem_of_enumerate_iff h).1 hv
    obtain ⟨hkr, hne⟩ := KeywordSet.mem_ofChoice.1 hk
    obtain ⟨l, hl, hkl⟩ := exists_mem_of_mem_choices hr hkr
    obtain ⟨g, hg, rfl⟩ := List.mem_map.1 hl
    exact ⟨hne, (hcompleted.1 ⟨g, hg, hkl⟩).resolve_right hne⟩
  · rintro ⟨hne, hoffers⟩
    obtain ⟨g, hg, hk⟩ := hcompleted.2 (.inl hoffers)
    obtain ⟨r, hr, hkr⟩ := exists_mem_choices (fun l hl => options_ne_nil hl)
      (List.mem_map.2 ⟨g, hg, rfl⟩) hk
    exact ⟨_, (mem_of_enumerate_iff h).2 ⟨r, hr, rfl⟩, KeywordSet.mem_ofChoice.2 ⟨hkr, hne⟩⟩

end GroupTable

end PassForge
