import Mathlib.Data.List.Induction
import Mathlib.Data.List.Nodup
import PassForge.Generator.Branch
import PassForge.Proofs.Plan

/-!
# Which branch is entered

The branches of a pass stand in one chain of conditions, and a preprocessor enters the first branch
whose condition holds.  The conditions are written against the vocabulary of the variants, and the
keywords that are defined can be any: also keywords that no variant knows, and also combinations
that are no variant.

* `KeywordSet.guard_holds_iff`: under the keywords `defined`, the guard of a variant holds exactly
  for `defined.inter vocabulary`.
* `VariantSet.countP_guards_le_one`: so at most one guard holds, in whatever order the variants
  stand.
* `VariantSet.entered_eq`: the branch entered is the one of `defined.inter vocabulary`, or the last
  one, which has no guard.
* `Generator.branch_selection`: all of this for the variants of a pass, and the shape of the chain.
-/

namespace PassForge

/-! ### Entering a branch -/

namespace Condition

/-- The guard of a condition; the branch of last resort has none. -/
def guard? : Condition → Option Guard
  | first g => some g
  | next g => some g
  | otherwise => none

/-- Whether a branch is entered once no earlier one was, when exactly the keywords of `defined` are
defined. -/
def holds (defined : KeywordSet) (c : Condition) : Bool :=
  match c.guard? with
  | some g => g.holds defined.contains
  | none => true

/-- The conditions of variants that stand in one chain. -/
def ofVariants (vocabulary : KeywordSet) (variants : List KeywordSet) : List Condition :=
  variants.zipIdx.map fun (v, i) => ofVariant i v vocabulary

/-- The branch of a chain that is entered: the first one whose condition holds. -/
def entered? {α : Type} (defined : KeywordSet) (branches : List (Condition × α)) :
    Option (Condition × α) :=
  branches.find? fun b => b.1.holds defined

variable {defined vocabulary v : KeywordSet} {i : Nat}

theorem guard?_ofVariant : (ofVariant i v vocabulary).guard? =
    if v.isEmpty then none else some (v.guard vocabulary) := by
  unfold ofVariant
  split
  · rfl
  · split <;> rfl

theorem holds_ofVariant : (ofVariant i v vocabulary).holds defined =
    (v.isEmpty || (v.guard vocabulary).holds defined.contains) := by
  unfold holds
  rw [guard?_ofVariant]
  cases v.isEmpty <;> rfl

variable {variants : List KeywordSet}

theorem ofVariants_zip : (ofVariants vocabulary variants).zip variants =
    variants.zipIdx.map fun (v, i) => (ofVariant i v vocabulary, v) := by
  calc (ofVariants vocabulary variants).zip variants
      = (ofVariants vocabulary variants).zip (variants.zipIdx.map Prod.fst) := by
        rw [List.zipIdx_map_fst]
    _ = variants.zipIdx.map fun (v, i) => (ofVariant i v vocabulary, v) := List.zip_map'

theorem filterMap_guard?_ofVariants : (ofVariants vocabulary variants).filterMap guard? =
    (variants.filter fun v => !v.isEmpty).map fun v => v.guard vocabulary := by
  rw [ofVariants, List.filterMap_map]
  have hfun : (guard? ∘ fun x : KeywordSet × Nat => ofVariant x.2 x.1 vocabulary) =
      (fun v => if v.isEmpty then none else some (v.guard vocabulary)) ∘ Prod.fst := by
    funext x
    exact guard?_ofVariant
  rw [hfun, ← List.filterMap_map, List.zipIdx_map_fst, ← List.filterMap_eq_map,
    ← List.filterMap_eq_filter, List.filterMap_filterMap]
  refine List.filterMap_congr fun v _ => ?_
  cases h : v.isEmpty <;> simp [Option.guard, h]

/-- Which branch is entered does not depend on what the branches hold. -/
theorem entered?_zip_map {α β : Type} (f : α → β) (conditions : List Condition) (l : List α) :
    entered? defined (conditions.zip (l.map f)) =
      (entered? defined (conditions.zip l)).map (Prod.map id f) := by
  rw [entered?, List.zip_map_right, List.find?_map]
  rfl

/-- Which variant is entered does not depend on where the variants stand in the chain, but for
their order. -/
theorem map_snd_entered? :
    (entered? defined ((ofVariants vocabulary variants).zip variants)).map Prod.snd =
      variants.find? fun v => v.isEmpty || (v.guard vocabulary).holds defined.contains := by
  have hfun : ((fun b : Condition × KeywordSet => b.1.holds defined) ∘
      fun x : KeywordSet × Nat => (ofVariant x.2 x.1 vocabulary, x.1)) =
      (fun v => v.isEmpty || (v.guard vocabulary).holds defined.contains) ∘ Prod.fst := by
    funext x
    exact holds_ofVariant
  rw [entered?, ofVariants_zip, List.find?_map, hfun, Option.map_map]
  calc ((variants.zipIdx.find? _).map _)
      = (variants.zipIdx.map Prod.fst).find?
          (fun v => v.isEmpty || (v.guard vocabulary).holds defined.contains) :=
        List.find?_map.symm
    _ = _ := by rw [List.zipIdx_map_fst]

theorem exists_eq_ofVariant_of_mem_zip {c : Condition}
    (hb : (c, v) ∈ (ofVariants vocabulary variants).zip variants) :
    ∃ i, c = ofVariant i v vocabulary := by
  rw [ofVariants_zip] at hb
  obtain ⟨⟨w, i⟩, -, hx⟩ := List.mem_map.1 hb
  obtain ⟨rfl, rfl⟩ := Prod.mk.inj hx
  exact ⟨i, rfl⟩

theorem ofVariants_cons_concat (hv : v.isEmpty = false)
    (hvariants : ∀ w ∈ variants, w.isEmpty = false) :
    ofVariants vocabulary (v :: variants ++ [∅]) =
      first (v.guard vocabulary) :: variants.map (fun w => next (w.guard vocabulary)) ++
        [otherwise] := by
  have hfirst : ofVariant 0 v vocabulary = first (v.guard vocabulary) := by simp [ofVariant, hv]
  have hnext : (variants.zipIdx 1).map (fun (w, i) => ofVariant i w vocabulary) =
      variants.map fun w => next (w.guard vocabulary) := by
    calc (variants.zipIdx 1).map (fun (w, i) => ofVariant i w vocabulary)
        = (variants.zipIdx 1).map ((fun w => next (w.guard vocabulary)) ∘ Prod.fst) := by
          refine List.map_congr_left fun x hx => ?_
          have hw := hvariants x.1 (List.fst_mem_of_mem_zipIdx hx)
          have hi : x.2 ≠ 0 := Nat.ne_of_gt (List.le_snd_of_mem_zipIdx hx)
          simp [ofVariant, hw, hi]
      _ = variants.map fun w => next (w.guard vocabulary) := by
          rw [← List.map_map, List.zipIdx_map_fst]
  rw [ofVariants, List.zipIdx_append, List.map_append, List.zipIdx_cons, List.map_cons,
    Nat.zero_add, hnext]
  show ofVariant 0 v vocabulary :: _ ++ _ = _
  rw [hfirst]
  rfl

end Condition

theorem sectionOf_eq_chain {vocabulary : KeywordSet} {branches : List Branch}
    {part : Sections → Code} : sectionOf vocabulary branches part =
      chain ((Condition.ofVariants vocabulary (branches.map Branch.variant)).zip
        (branches.map fun b => part b.sections)) := by
  have hconditions : Condition.ofVariants vocabulary (branches.map Branch.variant) =
      branches.zipIdx.map fun x => Condition.ofVariant x.2 x.1.variant vocabulary := by
    rw [Condition.ofVariants, List.zipIdx_map, List.map_map]
    rfl
  have htexts : (branches.map fun b => part b.sections) =
      branches.zipIdx.map fun x => part x.1.sections := by
    calc (branches.map fun b => part b.sections)
        = (branches.zipIdx.map Prod.fst).map (fun b => part b.sections) := by
          rw [List.zipIdx_map_fst]
      _ = branches.zipIdx.map fun x => part x.1.sections := List.map_map
  rw [hconditions, htexts, List.zip_map', sectionOf]

/-! ### Guards -/

namespace KeywordSet

variable {defined vocabulary v : KeywordSet}

/-- The guard of a variant tests for one restriction of the defined keywords to the vocabulary. -/
theorem guard_holds_iff (hv : ∀ k ∈ v, k ∈ vocabulary) :
    (v.guard vocabulary).holds defined.contains = true ↔ v = defined.inter vocabulary := by
  have hterms : (v.guard vocabulary).holds defined.contains = true ↔
      (∀ k ∈ v, k ∈ defined) ∧ ∀ k ∈ vocabulary, k ∉ v → k ∉ defined := by
    simp [guard, Guard.holds, GuardTerm.holds, NameSet.mem_def, NameSet.contains,
      or_iff_not_imp_left]
  rw [hterms]
  constructor
  · rintro ⟨hdef, hundef⟩
    refine NameSet.ext fun k => ?_
    rw [NameSet.mem_inter]
    constructor
    · intro hk
      exact ⟨hdef k hk, hv k hk⟩
    · rintro ⟨hd, hk⟩
      by_contra hkv
      exact hundef k hk hkv hd
  · rintro rfl
    simp only [NameSet.mem_inter]
    exact ⟨fun k hk => hk.1, fun k hk hkv hd => hkv ⟨hd, hk⟩⟩

/-- The guard of a variant as the preprocessor writes it. -/
def expression (v vocabulary : KeywordSet) : String :=
  " && ".intercalate ((v.guard vocabulary).map GuardTerm.text)

theorem text?_guard (hv : v.isEmpty = false) :
    (v.guard vocabulary).text? = some (v.expression vocabulary) := by
  have hne : (v.guard vocabulary).isEmpty = false := by
    simpa [guard, NameSet.isEmpty] using fun h => absurd h (by simpa [NameSet.isEmpty] using hv)
  rw [Guard.text?, hne]
  rfl

end KeywordSet

theorem Condition.map_line_ofVariants {v : KeywordSet} {variants : List KeywordSet}
    (hv : v.isEmpty = false) (hvariants : ∀ w ∈ variants, w.isEmpty = false)
    (vocabulary : KeywordSet) :
    (Condition.ofVariants vocabulary (v :: variants ++ [∅])).map Condition.line =
      ("#if " ++ v.expression vocabulary) ::
        variants.map (fun w => "#elif " ++ w.expression vocabulary) ++ ["#else"] := by
  have hnext : variants.map (Condition.line ∘ fun w => .next (w.guard vocabulary)) =
      variants.map fun w => "#elif " ++ w.expression vocabulary := by
    refine List.map_congr_left fun w hw => ?_
    rw [Function.comp_apply, Condition.line, KeywordSet.text?_guard (hvariants w hw)]
    rfl
  rw [Condition.ofVariants_cons_concat hv hvariants, List.map_append, List.map_cons, List.map_map,
    hnext, Condition.line, KeywordSet.text?_guard hv]
  rfl

/-! ### Variants in the order of emission -/

namespace VariantSet

variable {found : VariantSet} {v : KeywordSet}

theorem mem_foldl_union {k : String} {l : List KeywordSet} {s : KeywordSet} :
    k ∈ l.foldl NameSet.union s ↔ k ∈ s ∨ ∃ v ∈ l, k ∈ v := by
  induction l generalizing s with
  | nil => simp
  | cons v l ih =>
    rw [List.foldl_cons, ih, NameSet.mem_union, or_assoc]
    simp

theorem mem_vocabulary {k : String} : k ∈ found.vocabulary ↔ ∃ v ∈ found.variants, k ∈ v := by
  rw [vocabulary, mem_foldl_union]
  exact or_iff_right NameSet.not_mem_empty

theorem mem_ordered : v ∈ found.ordered ↔ v ∈ found.variants ∧ v.isEmpty = false ∨ v = ∅ := by
  simp [ordered]

theorem ordered_nodup : found.ordered.Nodup := by
  refine List.nodup_append.2 ⟨found.distinct.filter _, List.nodup_singleton _, ?_⟩
  rintro v hv w hw rfl
  have hne := (List.mem_filter.1 hv).2
  rw [List.mem_singleton.1 hw] at hne
  exact absurd hne (by decide)

theorem mem_vocabulary_of_mem_ordered (hv : v ∈ found.ordered) :
    ∀ k ∈ v, k ∈ found.vocabulary := by
  intro k hk
  rcases mem_ordered.1 hv with ⟨hv, _⟩ | rfl
  · exact mem_vocabulary.2 ⟨v, hv, hk⟩
  · exact absurd hk NameSet.not_mem_empty

variable {defined : KeywordSet}

theorem guard_holds_iff_of_mem_ordered (hv : v ∈ found.ordered) :
    (v.guard found.vocabulary).holds defined.contains = true ↔
      v = defined.inter found.vocabulary :=
  KeywordSet.guard_holds_iff (mem_vocabulary_of_mem_ordered hv)

/-- **At most one guard holds**, in whatever order the variants stand. -/
theorem countP_guards_le_one {variants : List KeywordSet} (hperm : variants.Perm found.ordered) :
    ((Condition.ofVariants found.vocabulary variants).filterMap Condition.guard?).countP
      (Guard.holds defined.contains) ≤ 1 := by
  rw [Condition.filterMap_guard?_ofVariants, List.countP_map]
  -- a guard that holds belongs to one variant, and no variant stands twice
  calc ((variants.filter fun v => !v.isEmpty).countP
        (Guard.holds defined.contains ∘ fun v => v.guard found.vocabulary))
      ≤ (variants.filter fun v => !v.isEmpty).count (defined.inter found.vocabulary) := by
        refine List.countP_mono_left fun v hv hholds => ?_
        have hv' := hperm.mem_iff.1 (List.mem_filter.1 hv).1
        exact beq_iff_eq.2 ((guard_holds_iff_of_mem_ordered hv').1 hholds)
    _ ≤ 1 := List.nodup_iff_count_le_one.1 ((hperm.nodup_iff.2 ordered_nodup).filter _) _

/-- **The branch that is entered** is the one of the defined keywords of the vocabulary, or the one
without keywords. -/
theorem entered_eq (found : VariantSet) (defined : KeywordSet) : (Condition.entered? defined
    ((Condition.ofVariants found.vocabulary found.ordered).zip found.ordered)).map Prod.snd =
      some (if defined.inter found.vocabulary ∈ found.ordered then
        defined.inter found.vocabulary else ∅) := by
  rw [Condition.map_snd_entered?]
  set r := defined.inter found.vocabulary with hr
  set p : KeywordSet → Bool :=
    fun v => v.isEmpty || (v.guard found.vocabulary).holds defined.contains
  have hsplit : found.ordered.find? p =
      ((found.variants.filter fun v => !v.isEmpty).find? p).or ([∅].find? p) := List.find?_append
  have hlast : [(∅ : KeywordSet)].find? p = some ∅ := rfl
  rw [hsplit, hlast]
  cases hfind : (found.variants.filter fun v => !v.isEmpty).find? p with
  | some v =>
    -- a variant with keywords is found by its guard
    have hv := List.mem_of_find?_eq_some hfind
    have hne : v.isEmpty = false := by simpa using (List.mem_filter.1 hv).2
    have hord : v ∈ found.ordered := List.mem_append_left _ hv
    have hholds : p v = true := List.find?_some hfind
    have heq : v = r := by
      rw [hr, ← guard_holds_iff_of_mem_ordered hord]
      simpa [p, hne] using hholds
    rw [← heq, if_pos hord, Option.some_or]
  | none =>
    -- no guard holds, so only the variant without keywords is left
    have hnone := List.find?_eq_none.1 hfind
    rw [Option.none_or]
    split
    · rename_i hmem
      rcases List.mem_append.1 hmem with hmem' | hmem'
      · refine absurd ?_ (hnone r hmem')
        simp [p, (guard_holds_iff_of_mem_ordered hmem).2 hr]
      · rw [List.mem_singleton.1 hmem']
    · rfl

theorem exists_entered_of_mem (h : defined.inter found.vocabulary ∈ found.ordered) :
    ∃ c, Condition.entered? defined
      ((Condition.ofVariants found.vocabulary found.ordered).zip found.ordered) =
        some (c, defined.inter found.vocabulary) := by
  have heq := entered_eq found defined
  rw [if_pos h] at heq
  obtain ⟨⟨c, v⟩, hentered, rfl⟩ := Option.map_eq_some_iff.1 heq
  exact ⟨c, hentered⟩

theorem entered_of_not_mem (h : defined.inter found.vocabulary ∉ found.ordered) :
    Condition.entered? defined
      ((Condition.ofVariants found.vocabulary found.ordered).zip found.ordered) =
        some (.otherwise, ∅) := by
  have heq := entered_eq found defined
  rw [if_neg h] at heq
  obtain ⟨⟨c, v⟩, hentered, rfl⟩ := Option.map_eq_some_iff.1 heq
  obtain ⟨i, rfl⟩ :=
    Condition.exists_eq_ofVariant_of_mem_zip (List.mem_of_find?_eq_some hentered)
  exact hentered

/-- Several variants: all but the last have keywords. -/
theorem exists_ordered_eq (h : 1 < found.ordered.length) : ∃ v variants,
    found.ordered = v :: variants ++ [∅] ∧ v.isEmpty = false ∧
      ∀ w ∈ variants, w.isEmpty = false := by
  unfold ordered at h ⊢
  have hne : ∀ w ∈ found.variants.filter fun v => !v.isEmpty, w.isEmpty = false := fun w hw => by
    simpa using (List.mem_filter.1 hw).2
  cases hfilter : found.variants.filter fun v => !v.isEmpty with
  | nil => simp [hfilter] at h
  | cons v variants =>
    rw [hfilter] at hne
    exact ⟨v, variants, rfl, hne v List.mem_cons_self,
      fun w hw => hne w (List.mem_cons_of_mem _ hw)⟩

/-- A single variant has no keyword, and there is none to test for. -/
theorem ordered_eq_singleton (h : found.ordered.length = 1) :
    found.ordered = [∅] ∧ found.vocabulary = ∅ := by
  have hempty : found.ordered = [∅] := by
    unfold ordered at h ⊢
    rw [List.length_append, List.length_singleton] at h
    rw [List.length_eq_zero_iff.1 (Nat.succ.inj h), List.nil_append]
  refine ⟨hempty, NameSet.ext fun k => ⟨fun hk => ?_, fun hk => absurd hk NameSet.not_mem_empty⟩⟩
  obtain ⟨v, hv, hkv⟩ := mem_vocabulary.1 hk
  -- a variant with a keyword would be emitted before the last one
  have hord : v ∈ found.ordered := by
    rw [mem_ordered]
    cases hv' : v.isEmpty with
    | true => exact .inr (NameSet.isEmpty_iff.1 hv')
    | false => exact .inl ⟨hv, rfl⟩
  rw [hempty] at hord
  exact List.mem_singleton.1 hord ▸ hkv

end VariantSet

/-! ### The chain of a pass -/

namespace Generator

variable {gen : Generator} {pass : Pass} {plan : Plan}

/-- The active fields once the branches of some variants have been written. -/
def activeAfter (gen : Generator) (pass : Pass) (plan : Plan) (seed : NameSet)
    (variants : List KeywordSet) : NameSet :=
  (variants.foldl (gen.addBranch pass plan) (.start (seed.insertAll pass.requiredFields))).active

theorem branches_foldl_addBranch (seed : NameSet) (variants : List KeywordSet) :
    (variants.foldl (gen.addBranch pass plan)
      (.start (seed.insertAll pass.requiredFields))).branches =
      variants.zipIdx.map fun (v, i) => ⟨v, gen.sectionsOf pass plan v
        (gen.activeAfter pass plan seed (variants.take (i + 1)))⟩ := by
  induction variants using List.reverseRecOn with
  | nil => rfl
  | append_singleton variants v ih =>
    rw [List.foldl_concat, List.zipIdx_append, List.map_append]
    show _ ++ [_] = _
    rw [ih]
    congr 1
    · refine List.map_congr_left fun x hx => ?_
      obtain ⟨w, i⟩ := x
      have hi : i + 1 ≤ variants.length := List.snd_lt_of_mem_zipIdx hx
      simp only [List.take_append_of_le_length hi]
    · have htake : (variants ++ [v]).take (variants.length + 1) = variants ++ [v] :=
        List.take_of_length_le (by simp)
      simp only [List.zipIdx_singleton, List.map_singleton, Nat.zero_add, htake, activeAfter,
        List.foldl_concat]
      rfl

/-- **The branches of a pass**: every variant has one, in the order of emission, written against the
fields that are active after it. -/
theorem branches_draft {seed : NameSet} : (gen.draft pass plan seed).branches =
    plan.variants.zipIdx.map fun (v, i) =>
      ⟨v, gen.sectionsOf pass plan v
        (gen.activeAfter pass plan seed (plan.variants.take (i + 1)))⟩ :=
  branches_foldl_addBranch seed plan.variants

theorem map_variant_draft {seed : NameSet} :
    (gen.draft pass plan seed).branches.map Branch.variant = plan.variants := by
  rw [branches_draft, List.map_map]
  exact List.zipIdx_map_fst 0 plan.variants

/-- **Branch selection.**  In a pass whose variants could be enumerated, whatever keywords are
defined: at most one guard holds, whatever the order of the branches; the branch entered is the one
of the defined keywords of the vocabulary, or the last one if these are no variant; and the lines
of several branches are `#if`, `#elif`, … and one `#else`.  These are the conditions under which
the sections of the pass are written. -/
theorem branch_selection {vertexSlots pixelSlots : List SlotId} {limit : Nat}
    {groups : GroupTable} {found : VariantSet}
    (hgroups : gen.collectGroups vertexSlots pixelSlots = .ok groups)
    (hfound : groups.enumerate limit = .ok found) :
    (∀ defined : KeywordSet,
      (∀ variants : List KeywordSet, variants.Perm found.ordered →
        ((Condition.ofVariants found.vocabulary variants).filterMap Condition.guard?).countP
          (Guard.holds defined.contains) ≤ 1) ∧
      (defined.inter found.vocabulary ∈ found.ordered → ∃ c, Condition.entered? defined
        ((Condition.ofVariants found.vocabulary found.ordered).zip found.ordered) =
          some (c, defined.inter found.vocabulary)) ∧
      (defined.inter found.vocabulary ∉ found.ordered → Condition.entered? defined
        ((Condition.ofVariants found.vocabulary found.ordered).zip found.ordered) =
          some (.otherwise, ∅))) ∧
    (1 < found.ordered.length → ∃ v variants, found.ordered = v :: variants ++ [∅] ∧
      Condition.ofVariants found.vocabulary found.ordered =
        .first (v.guard found.vocabulary) ::
          variants.map (fun w => .next (w.guard found.vocabulary)) ++ [.otherwise] ∧
      (Condition.ofVariants found.vocabulary found.ordered).map Condition.line =
        ("#if " ++ v.expression found.vocabulary) ::
          variants.map (fun w => "#elif " ++ w.expression found.vocabulary) ++ ["#else"]) ∧
    (found.ordered.length = 1 → found.ordered = [∅] ∧ found.vocabulary = ∅) ∧
    (∀ (pass : Pass) (seed : NameSet), gen.settings.maxVariants = limit →
      gen.graph.resolveSlots gen.root pass.pixelSlots = .ok pixelSlots →
      gen.graph.resolveSlots gen.root pass.vertexSlots = .ok vertexSlots →
      ∃ plan branches, gen.plan pass = .ok plan ∧
        branches = (gen.draft pass plan seed).branches ∧
        branches.map Branch.variant = found.ordered ∧
        ∀ part : Sections → Code, sectionOf plan.vocabulary branches part =
          chain ((Condition.ofVariants found.vocabulary found.ordered).zip
            (branches.map fun b => part b.sections))) := by
  refine ⟨fun defined => ⟨fun variants hperm => VariantSet.countP_guards_le_one hperm,
    VariantSet.exists_entered_of_mem, VariantSet.entered_of_not_mem⟩, fun h => ?_,
    VariantSet.ordered_eq_singleton, ?_⟩
  · obtain ⟨v, variants, hordered, hv, hvariants⟩ := VariantSet.exists_ordered_eq h
    rw [hordered]
    exact ⟨v, variants, rfl, Condition.ofVariants_cons_concat hv hvariants,
      Condition.map_line_ofVariants hv hvariants _⟩
  · rintro pass seed rfl hpixel hvertex
    obtain ⟨plan, hplan, rfl, -⟩ := exists_plan pass hpixel hvertex hgroups hfound
    refine ⟨plan, _, hplan, rfl, map_variant_draft, fun part => ?_⟩
    rw [sectionOf_eq_chain, map_variant_draft]
    rfl

/-- With the keyword `LIT`, which no variant knows: a pair of keywords that is a variant enters its
own branch, and one that is none enters the last.  The sections of the pass are written under six
lines. -/
theorem branch_selection_stone :
    stone.collectGroups [1] [0] = .ok stoneGroups ∧
    stoneGroups.enumerate 256 = .ok stoneVariants ∧
    (∃ c, Condition.entered? (.ofList ["LIT", "SNOW", "WET"])
      ((Condition.ofVariants stoneVariants.vocabulary stoneVariants.ordered).zip
        stoneVariants.ordered) = some (c, .ofList ["SNOW", "WET"])) ∧
    Condition.entered? (.ofList ["ICE", "LIT", "SNOW"])
      ((Condition.ofVariants stoneVariants.vocabulary stoneVariants.ordered).zip
        stoneVariants.ordered) = some (.otherwise, ∅) ∧
    (Condition.ofVariants stoneVariants.vocabulary stoneVariants.ordered).map Condition.line =
      ["#if defined(WET) && !defined(ICE) && !defined(SNOW)",
        "#elif defined(SNOW) && !defined(ICE) && !defined(WET)",
        "#elif defined(ICE) && !defined(SNOW) && !defined(WET)",
        "#elif defined(SNOW) && defined(WET) && !defined(ICE)",
        "#elif defined(ICE) && defined(WET) && !defined(SNOW)", "#else"] ∧
    ∃ plan branches, stone.plan (.forward true [0] [1]) = .ok plan ∧
      branches = (stone.draft (.forward true [0] [1]) plan ∅).branches ∧
      ∀ part : Sections → Code, sectionOf plan.vocabulary branches part =
        chain ((Condition.ofVariants stoneVariants.vocabulary stoneVariants.ordered).zip
          (branches.map fun b => part b.sections)) := by
  obtain ⟨hselection, hseveral, -, hpass⟩ :=
    branch_selection collectGroups_stone enumerate_stoneGroups
  obtain ⟨v, variants, hordered, -, hlines⟩ := hseveral (by decide)
  have hvariants : stoneVariants.ordered = .ofList ["WET"] :: [.ofList ["SNOW"], .ofList ["ICE"],
      .ofList ["SNOW", "WET"], .ofList ["ICE", "WET"]] ++ [∅] := by
    decide
  obtain ⟨rfl, hrest⟩ := List.cons.inj (hordered.symm.trans hvariants)
  obtain rfl := List.append_cancel_right hrest
  obtain ⟨plan, branches, hplan, hbranches, -, hsections⟩ :=
    hpass (.forward true [0] [1]) ∅ rfl rfl rfl
  refine ⟨collectGroups_stone, enumerate_stoneGroups,
    (hselection (.ofList ["LIT", "SNOW", "WET"])).2.1 (by decide),
    (hselection (.ofList ["ICE", "LIT", "SNOW"])).2.2 (by decide), hlines.trans ?_, plan, branches,
    hplan, hbranches, hsections⟩
  decide +kernel

end Generator

end PassForge
