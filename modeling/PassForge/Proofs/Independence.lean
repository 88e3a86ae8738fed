import Mathlib.Data.List.Find
import Mathlib.Data.List.Nodup
import PassForge.Proofs.Product

/-!
# Independent groups

A variant is a set of keywords: which group a keyword was chosen from is not part of it, and a
default option that was chosen leaves no trace.  Where no two groups share a keyword, the choice can
be read back all the same.  The option chosen from a group is the only one of its keywords that the
variant has, or the default option if it has none (`KeywordGroup.chosen`).

* `map_chosen_ofChoice`: reading back a variant gives the choice it was made from, so different
  choices make different variants.
* `Switch.selected_of_only`: a switch that finds one option active follows the first route of it.
* `GroupTable.enumerate_independent`: groups without a common keyword are enumerated without
  merging any two choices, and every switch follows the option chosen from its group.
-/

namespace PassForge

/-! ### Reading back a choice -/

/-- The groups have no keyword in common; both may offer the default option. -/
def KeywordGroup.Apart (g h : KeywordGroup) : Prop :=
  ∀ k ∈ g.options, k ∈ h.options → k = defaultOption

instance (g h : KeywordGroup) : Decidable (g.Apart h) :=
  inferInstanceAs (Decidable (∀ k ∈ g.options, k ∈ h.options → k = defaultOption))

/-- The option of a group that a variant stands for. -/
def KeywordGroup.chosen (g : KeywordGroup) (active : KeywordSet) : String :=
  (g.options.find? fun k => k != defaultOption && active.contains k).getD defaultOption

section Choice

variable {groups : List KeywordGroup} {r : List String} {o k : String} {g : KeywordGroup}

theorem mem_options_of_mem_zip (hr : r ∈ choices (groups.map KeywordGroup.options))
    (ho : (o, g) ∈ r.zip groups) : o ∈ g.options := by
  rw [mem_choices_iff, List.forall₂_map_right_iff, List.forall₂_iff_zip] at hr
  exact hr.2 ho

/-- **The only keyword of a group in a choice is the one chosen from it**, if the others have none
of its keywords. -/
theorem mem_choice_iff (hapart : groups.Pairwise KeywordGroup.Apart)
    (hr : r ∈ choices (groups.map KeywordGroup.options)) (ho : (o, g) ∈ r.zip groups)
    (hk : k ∈ g.options) (hne : k ≠ defaultOption) : k ∈ r ↔ k = o := by
  induction groups generalizing r with
  | nil => simp at ho
  | cons first groups ih =>
    obtain ⟨hfirst, hrest⟩ := List.pairwise_cons.1 hapart
    obtain ⟨a, ha, htail⟩ := List.mem_flatMap.1 hr
    obtain ⟨r', hr', rfl⟩ := List.mem_map.1 htail
    rw [List.mem_cons]
    rcases List.mem_cons.1 ho with heq | hlater
    · -- the first group: no other has a keyword of it
      obtain ⟨rfl, rfl⟩ := Prod.mk.inj heq
      refine or_iff_left fun hkr => ?_
      obtain ⟨l, hl, hkl⟩ := exists_mem_of_mem_choices hr' hkr
      obtain ⟨h, hh, rfl⟩ := List.mem_map.1 hl
      exact hne (hfirst h hh k hk hkl)
    · -- another group: the first has no keyword of it
      have hka : k ≠ a := by
        rintro rfl
        exact hne (hfirst g (List.of_mem_zip hlater).2 k ha hk)
      rw [or_iff_right hka]
      exact ih hrest hr' hlater

theorem mem_ofChoice_iff (hapart : groups.Pairwise KeywordGroup.Apart)
    (hr : r ∈ choices (groups.map KeywordGroup.options)) (ho : (o, g) ∈ r.zip groups)
    (hk : k ∈ g.options) (hne : k ≠ defaultOption) : k ∈ KeywordSet.ofChoice r ↔ k = o := by
  rw [KeywordSet.mem_ofChoice, mem_choice_iff hapart hr ho hk hne]
  exact and_iff_left hne

theorem chosen_ofChoice (hapart : groups.Pairwise KeywordGroup.Apart)
    (hr : r ∈ choices (groups.map KeywordGroup.options)) (ho : (o, g) ∈ r.zip groups) :
    g.chosen (KeywordSet.ofChoice r) = o := by
  unfold KeywordGroup.chosen
  cases hfound : g.options.find? fun k =>
      k != defaultOption && (KeywordSet.ofChoice r).contains k with
  | none =>
    -- were it a keyword, it would have been found
    by_contra hdefault
    have hne : o ≠ defaultOption := Ne.symm hdefault
    have hoptions := mem_options_of_mem_zip hr ho
    have hmem := (mem_ofChoice_iff hapart hr ho hoptions hne).2 rfl
    have hnot := List.find?_eq_none.1 hfound o hoptions
    exact hnot (by simp [hne, hmem])
  | some k =>
    have hk := List.find?_some hfound
    simp only [Bool.and_eq_true, bne_iff_ne, NameSet.contains_iff] at hk
    exact (mem_ofChoice_iff hapart hr ho (List.mem_of_find?_eq_some hfound) hk.1).1 hk.2

/-- **A choice can be read back from its variant.** -/
theorem map_chosen_ofChoice (hapart : groups.Pairwise KeywordGroup.Apart)
    (hr : r ∈ choices (groups.map KeywordGroup.options)) :
    groups.map (KeywordGroup.chosen · (KeywordSet.ofChoice r)) = r := by
  have hlength : r.length = groups.length := by
    simpa using (mem_choices_iff.1 hr).length_eq
  calc groups.map (KeywordGroup.chosen · (KeywordSet.ofChoice r))
      = ((r.zip groups).map Prod.snd).map (KeywordGroup.chosen · (KeywordSet.ofChoice r)) := by
        rw [List.map_snd_zip hlength.ge]
    _ = (r.zip groups).map Prod.fst := by
        rw [List.map_map]
        exact List.map_congr_left fun p hp => chosen_ofChoice hapart hr hp
    _ = r := List.map_fst_zip hlength.le

theorem nodup_map_ofChoice (hapart : groups.Pairwise KeywordGroup.Apart) :
    ((choices (groups.map KeywordGroup.options)).map KeywordSet.ofChoice).Nodup := by
  have hchoices : (choices (groups.map KeywordGroup.options)).Nodup := by
    refine List.Nodup.of_map (places groups) ((pairwise_places_choices groups).imp ?_)
    rintro a b hlt rfl
    exact List.lt_irrefl a hlt
  refine hchoices.map_on fun r hr r' hr' heq => ?_
  rw [← map_chosen_ofChoice hapart hr, heq, map_chosen_ofChoice hapart hr']

end Choice

theorem length_choices (ls : List (List String)) :
    (choices ls).length = (ls.map List.length).prod := by
  induction ls with
  | nil => rfl
  | cons l ls ih => simp [choices, ih, List.length_flatMap]

theorem eraseDups_of_nodup {α : Type} [DecidableEq α] {l : List α} (h : l.Nodup) :
    l.eraseDups = l := by
  induction l using List.reverseRecOn with
  | nil => rfl
  | append_singleton l a ih =>
    obtain ⟨hl, -, hdisjoint⟩ := List.nodup_append.1 h
    have ha : a ∉ l := fun ha => hdisjoint a ha a List.mem_cons_self rfl
    rw [eraseDups_concat, if_neg ha, ih hl]

/-! ### Following a choice -/

/-- **A switch that finds one option active follows the first route of it.**  The default option is
taken as active if no keyword is. -/
theorem Switch.selected_of_only {s : Switch} {active : KeywordSet} {o : String}
    (ho : ∃ r ∈ s.routes, r.option = o)
    (honly : ∀ r ∈ s.routes, r.option ≠ defaultOption → (r.option ∈ active ↔ r.option = o)) :
    ∃ before route after, s.routes = before ++ route :: after ∧ route.option = o ∧
      (∀ r ∈ before, r.option ≠ o) ∧ s.selected active = some route.slot := by
  have hfollowed : (s.activeRoute? active).or s.defaultRoute? =
      s.routes.find? (·.option == o) := by
    by_cases hdefault : o = defaultOption
    · -- no keyword is active
      have hnone : s.activeRoute? active = none := by
        refine List.find?_eq_none.2 fun r hr hactive => ?_
        simp only [Bool.and_eq_true, bne_iff_ne, NameSet.contains_iff] at hactive
        exact hactive.1 (((honly r hr hactive.1).1 hactive.2).trans hdefault)
      rw [hnone, Option.none_or, defaultRoute?, hdefault]
    · have hactive : s.activeRoute? active = s.routes.find? (·.option == o) := by
        refine List.find?_congr fun r hr => ?_
        rw [Bool.eq_iff_iff]
        simp only [Bool.and_eq_true, bne_iff_ne, NameSet.contains_iff, beq_iff_eq]
        constructor
        · rintro ⟨hne, hmem⟩
          exact (honly r hr hne).1 hmem
        · intro heq
          have hne : r.option ≠ defaultOption := fun h => hdefault (heq.symm.trans h)
          exact ⟨hne, (honly r hr hne).2 heq⟩
      have hsome : (s.routes.find? (·.option == o)).isSome = true := by
        simpa [List.find?_isSome] using ho
      rw [hactive, Option.or_of_isSome hsome]
  obtain ⟨r, hr, hoption⟩ := ho
  obtain ⟨route, hroute⟩ := Option.isSome_iff_exists.1
    (List.find?_isSome.2 ⟨r, hr, beq_iff_eq.2 hoption⟩ :
      (s.routes.find? (·.option == o)).isSome = true)
  obtain ⟨hfirst, before, after, hroutes, hbefore⟩ := List.find?_eq_some_iff_append.1 hroute
  refine ⟨before, route, after, hroutes, beq_iff_eq.1 hfirst, fun r hr => ?_, ?_⟩
  · simpa using hbefore r hr
  · rw [selected, hfollowed, hroute]
    rfl

/-! ### Enumeration -/

namespace GroupTable

/-- **Independent groups are enumerated without merging, and switches follow the choice.**  Take
groups of which no two have a keyword in common, with no more combinations than a limit that can be
counted to.  Then the variants of all tuples of options are different from each other, and
enumeration returns them, as many as there are combinations.  Under the variant of a tuple, every
switch with the options of one of the groups chooses the slot of its first route for the option that
the tuple has of this group. -/
theorem enumerate_independent (t : GroupTable) (hapart : t.groups.Pairwise KeywordGroup.Apart)
    {limit : Nat} (hlimit : (t.groups.map KeywordGroup.size).prod ≤ limit)
    (hcount : limit ≤ maxCount) :
    (t.tuples.map KeywordSet.ofChoice).Nodup ∧
    (∃ found, t.enumerate limit = .ok found ∧
      found.variants = t.tuples.map KeywordSet.ofChoice ∧ found.size = t.productSize) ∧
    ∀ r ∈ t.tuples, ∀ o g, (o, g) ∈ r.zip t.groups → ∀ s : Switch, (s.group == g) = true →
      ∃ before route after, s.routes = before ++ route :: after ∧ route.option = o ∧
        (∀ r ∈ before, r.option ≠ o) ∧
        s.selected (KeywordSet.ofChoice r) = some route.slot := by
  have hdistinct : (t.tuples.map KeywordSet.ofChoice).Nodup := nodup_map_ofChoice hapart
  have hsize : t.productSize = (t.groups.map KeywordGroup.size).prod := by
    rw [productSize_eq, Nat.min_eq_left (hlimit.trans hcount)]
  refine ⟨hdistinct, ?_, fun r hr o g ho s hs => ?_⟩
  · obtain ⟨found, hfound⟩ : ∃ found, t.enumerate limit = .ok found :=
      ⟨_, if_neg (Nat.not_lt.2 (hsize.trans_le hlimit))⟩
    have hvariants : found.variants = t.tuples.map KeywordSet.ofChoice := by
      rw [enumerate_eq_foldl hfound, VariantSet.variants_foldl_insert, map_ofChoice_completed,
        eraseDups_of_nodup hdistinct]
    refine ⟨found, hfound, hvariants, ?_⟩
    rw [VariantSet.size, hvariants, List.length_map, tuples, length_choices, hsize, List.map_map]
    rfl
  · have hoptions : ∀ k, k ∈ g.options ↔ ∃ r ∈ s.routes, r.option = k := by
      intro k
      rw [← mem_options_congr hs]
      simp [Switch.group, KeywordGroup.ofOptions]
    refine Switch.selected_of_only ((hoptions o).1 (mem_options_of_mem_zip hr ho)) ?_
    intro route hroute hne
    exact mem_ofChoice_iff hapart hr ho ((hoptions _).2 ⟨route, hroute, rfl⟩) hne

/-- Two groups without a common keyword, one of which can be left at its default. -/
def icyGroups : GroupTable := empty.insertAll [.ofOptions ["_", "WET"], .ofOptions ["SNOW", "ICE"]]

/-- A switch for the first of these groups, with a route too many. -/
def drySwitch : Switch := ⟨[⟨"WET", 0⟩, ⟨"_", 2⟩, ⟨"_", 1⟩]⟩

/-- Four combinations, as many as allowed, are four variants.  Under the variant of dry ice, the
switch follows its first route for the default option. -/
theorem enumerate_independent_icy :
    icyGroups.groups.Pairwise KeywordGroup.Apart ∧
    (icyGroups.groups.map KeywordGroup.size).prod ≤ 4 ∧ 4 ≤ maxCount ∧
    (∃ found, icyGroups.enumerate 4 = .ok found ∧
      found.variants = [.ofList ["SNOW"], .ofList ["ICE"], .ofList ["SNOW", "WET"],
        .ofList ["ICE", "WET"]] ∧ found.size = icyGroups.productSize) ∧
    drySwitch.selected (.ofChoice ["_", "ICE"]) = some 2 ∧
    ∃ before route after, drySwitch.routes = before ++ route :: after ∧ route.option = "_" ∧
      (∀ r ∈ before, r.option ≠ "_") ∧
      drySwitch.selected (.ofChoice ["_", "ICE"]) = some route.slot := by
  have hapart : icyGroups.groups.Pairwise KeywordGroup.Apart := by decide
  have hlimit : (icyGroups.groups.map KeywordGroup.size).prod ≤ 4 := by decide
  have hcount : 4 ≤ maxCount := by decide
  have hgroups : icyGroups.groups = [.ofOptions ["_", "WET"], .ofOptions ["SNOW", "ICE"]] := rfl
  obtain ⟨-, ⟨found, hfound, hvariants, hsize⟩, hrouted⟩ :=
    enumerate_independent icyGroups hapart hlimit hcount
  refine ⟨hapart, hlimit, hcount, ⟨found, hfound, hvariants.trans (by decide), hsize⟩, by decide,
    ?_⟩
  refine hrouted ["_", "ICE"] (by decide) "_" (.ofOptions ["_", "WET"]) ?_ drySwitch (by decide)
  rw [hgroups]
  exact List.mem_cons_self

end GroupTable

end PassForge
