import Mathlib.Data.Set.Basic
import Mathlib.Order.Bounds.Basic
import PassForge.Generator.Basic
import PassForge.Proofs.Aggregation
import PassForge.Proofs.BranchSelection

/-!
# The active fields of a pass

The active fields are closed over the dependencies anew for every variant, starting from what the
variants before have left.  That comes to the same as closing once: after every variant the active
fields are the least closed set that includes the fields handed in, the required fields of the pass
and what the variants so far activate.

* `Closure.isLeast_close`: closing finds the least closed set above its argument.
* `Closure.closedAbove_close`, `Generator.closedAbove_activeAfter`: closing in between does not
  change which closed sets are above, by induction over the variants.
* `Generator.mem_seeds_iff`: what a variant activates, said of the nodes and slots of its stages.
* `Generator.active_fields_least`: the active fields of every branch and of the pass, whatever the
  order of the variants.
-/

namespace PassForge

/-- The members of a set of names. -/
def NameSet.toSet (s : NameSet) : Set String := {a | a ∈ s}

/-- The sets of fields that include `base` and, with a field, all that it needs. -/
def closedAbove (edges : List Dependency) (base : Set String) : Set (Set String) :=
  {T | base ⊆ T ∧ ∀ d ∈ edges, d.consumer ∈ T → d.producer ∈ T}

variable {edges : List Dependency}

theorem closedAbove_anti {base base' : Set String} (h : base ⊆ base') :
    closedAbove edges base' ⊆ closedAbove edges base :=
  fun _ hT => ⟨h.trans hT.1, hT.2⟩

/-- The closed sets above an enlarged set are those that include what was added. -/
theorem closedAbove_insertAll (active : NameSet) (l : List String) :
    closedAbove edges (active.insertAll l).toSet =
      {T ∈ closedAbove edges active.toSet | ∀ a ∈ l, a ∈ T} := by
  ext T
  constructor
  · rintro ⟨hbase, hclosed⟩
    exact ⟨⟨fun a ha => hbase (NameSet.mem_insertAll.2 (.inl ha)), hclosed⟩,
      fun a ha => hbase (NameSet.mem_insertAll.2 (.inr ha))⟩
  · rintro ⟨⟨hbase, hclosed⟩, hl⟩
    refine ⟨fun a ha => ?_, hclosed⟩
    rcases NameSet.mem_insertAll.1 ha with ha | ha
    · exact hbase ha
    · exact hl a ha

/-! ### Scans -/

namespace Scan

variable {s : Scan}

theorem run_subset {T : Set String} (hT : ∀ d ∈ edges, d.consumer ∈ T → d.producer ∈ T)
    (hs : s.fields.toSet ⊆ T) : (run edges s).fields.toSet ⊆ T := by
  induction edges generalizing s with
  | nil => exact hs
  | cons d rest ih =>
    refine ih (fun e he => hT e (List.mem_cons_of_mem _ he)) ?_
    unfold step
    split
    · rename_i hd
      rintro a ha
      rcases NameSet.mem_insert.1 ha with rfl | ha
      · exact hT d List.mem_cons_self (hs hd.1)
      · exact hs ha
    · exact hs

theorem activated_prefix_run (edges : List Dependency) (s : Scan) :
    s.activated <+: (run edges s).activated := by
  induction edges generalizing s with
  | nil => exact List.prefix_refl _
  | cons d rest ih =>
    refine List.IsPrefix.trans ?_ (ih (s.step d))
    unfold step
    split
    · exact List.prefix_append _ _
    · exact List.prefix_refl _

theorem producer_mem_of_activated_eq (h : (run edges s).activated = s.activated) :
    ∀ d ∈ edges, d.consumer ∈ s.fields → d.producer ∈ s.fields := by
  induction edges generalizing s with
  | nil => exact fun d hd => absurd hd List.not_mem_nil
  | cons d rest ih =>
    have hrun : run (d :: rest) s = run rest (s.step d) := rfl
    rw [hrun] at h
    by_cases hd : d.consumer ∈ s.fields ∧ d.producer ∉ s.fields
    · -- then the scan would have noted it
      have hstep : (s.step d).activated = s.activated ++ [d] := by rw [step, if_pos hd]
      have hlength := (activated_prefix_run rest (s.step d)).length_le
      rw [h, hstep, List.length_append, List.length_singleton] at hlength
      exact absurd hlength (Nat.not_succ_le_self _)
    · have hstep : s.step d = s := if_neg hd
      rw [hstep] at h
      intro e he hconsumer
      rcases List.mem_cons.1 he with rfl | he
      · by_contra hproducer
        exact hd ⟨hconsumer, hproducer⟩
      · exact ih h e he hconsumer

end Scan

/-! ### Closing -/

namespace Closure

variable {fields : NameSet}

theorem close_fields_of_activated_eq (h : (Scan.ofFields edges fields).activated = []) :
    (close edges fields).fields = fields := by
  rw [close, dif_pos h]

theorem close_fields_of_activated_ne (h : (Scan.ofFields edges fields).activated ≠ []) :
    (close edges fields).fields = (close edges (Scan.ofFields edges fields).fields).fields := by
  rw [close, dif_neg h]

/-- **Closing finds the least closed set** above the fields it starts from. -/
theorem isLeast_close (edges : List Dependency) (fields : NameSet) :
    IsLeast (closedAbove edges fields.toSet) (close edges fields).fields.toSet := by
  induction fields using close.induct edges with
  | case1 fields scan h =>
    rw [close_fields_of_activated_eq h]
    exact ⟨⟨subset_rfl, Scan.producer_mem_of_activated_eq (s := ⟨fields, []⟩) h⟩,
      fun T hT => hT.1⟩
  | case2 fields scan h _ ih =>
    rw [close_fields_of_activated_ne h]
    have hfields : fields.toSet ⊆ scan.fields.toSet := fun a ha => Scan.mem_run_of_mem ha
    refine ⟨closedAbove_anti hfields ih.1, fun T hT => ih.2 ⟨?_, hT.2⟩⟩
    exact Scan.run_subset hT.2 hT.1

/-- The closed sets above a closed set are those above what it was closed from. -/
theorem closedAbove_close (edges : List Dependency) (fields : NameSet) :
    closedAbove edges (close edges fields).fields.toSet = closedAbove edges fields.toSet := by
  have hleast := isLeast_close edges fields
  exact Set.Subset.antisymm (closedAbove_anti hleast.1.1) fun T hT => ⟨hleast.2 hT, hT.2⟩

end Closure

/-! ### The fields of a pass -/

namespace Generator

variable {gen : Generator} {pass : Pass} {plan : Plan} {seed : NameSet}

theorem mem_stageSeeds_iff (hplan : gen.plan pass = .ok plan) {p : StagePlan}
    (hp : p ∈ plan.stages) {v : KeywordSet} {field : String} :
    field ∈ gen.stageSeeds p v ↔
      (∃ n ∈ gen.graph.liveNodes (p.nodesOf v), ∃ name ∈ n.requirements.fields p.stage,
        field = qualify p.stage.names.inputStruct name) ∨
      ∃ slot ∈ gen.graph.rootSlots gen.root p.slots,
        field = qualify p.stage.names.outputStruct (Text.sanitize slot.name) := by
  rw [stageSeeds, List.mem_append, requirements_of_plan hplan hp]
  simp only [Requirements.qualifiedFields, MaterialGraph.outputFields, List.mem_map,
    MaterialGraph.mem_fields_requirements_iff]
  constructor
  · rintro (⟨name, ⟨n, hn, hname⟩, rfl⟩ | ⟨slot, hslot, rfl⟩)
    · exact .inl ⟨n, hn, name, hname, rfl⟩
    · exact .inr ⟨slot, hslot, rfl⟩
  · rintro (⟨n, hn, name, hname, rfl⟩ | ⟨slot, hslot, rfl⟩)
    · exact .inl ⟨name, ⟨n, hn, hname⟩, rfl⟩
    · exact .inr ⟨slot, hslot, rfl⟩

/-- **What a variant activates**: for every stage that is written, the members of its input struct
that some node of the variant needs, and the members of its output struct, one for every slot of the
root that the stage evaluates; and `modifyMesh`, if the vertex stage is written. -/
theorem mem_seeds_iff (hplan : gen.plan pass = .ok plan) {v : KeywordSet} {field : String} :
    field ∈ gen.seeds plan v ↔
      (∃ p ∈ plan.stages,
        (∃ n ∈ gen.graph.liveNodes (p.nodesOf v), ∃ name ∈ n.requirements.fields p.stage,
          field = qualify p.stage.names.inputStruct name) ∨
        ∃ slot ∈ gen.graph.rootSlots gen.root p.slots,
          field = qualify p.stage.names.outputStruct (Text.sanitize slot.name)) ∨
      plan.vertexActive = true ∧ field = modifyMesh := by
  have hstages : field ∈ gen.seeds plan v ↔
      (∃ p ∈ plan.stages, field ∈ gen.stageSeeds p v) ∨
        plan.vertexActive = true ∧ field = modifyMesh := by
    unfold seeds Plan.stages
    cases plan.vertexActive <;> simp [or_assoc, or_comm (a := field = modifyMesh)]
  rw [hstages]
  refine or_congr_left (exists_congr fun p => and_congr_right fun hp => ?_)
  exact mem_stageSeeds_iff hplan hp

/-- The fields handed in, those required by the pass, and those that some variants activate. -/
def baseFields (gen : Generator) (pass : Pass) (plan : Plan) (seed : NameSet)
    (variants : List KeywordSet) : Set String :=
  {a | a ∈ seed ∨ a ∈ pass.requiredFields ∨ ∃ v ∈ variants, a ∈ gen.seeds plan v}

theorem baseFields_mono {variants variants' : List KeywordSet} (h : variants ⊆ variants') :
    gen.baseFields pass plan seed variants ⊆ gen.baseFields pass plan seed variants' := by
  rintro a (ha | ha | ⟨v, hv, ha⟩)
  · exact .inl ha
  · exact .inr (.inl ha)
  · exact .inr (.inr ⟨v, h hv, ha⟩)

theorem activeAfter_concat (variants : List KeywordSet) (v : KeywordSet) :
    gen.activeAfter pass plan seed (variants ++ [v]) =
      (Closure.close gen.registry.dependencies
        ((gen.activeAfter pass plan seed variants).insertAll (gen.seeds plan v))).fields := by
  rw [activeAfter, List.foldl_concat]
  rfl

/-- **Closing in between makes no difference**: the closed sets above the active fields are those
above the fields that were activated. -/
theorem closedAbove_activeAfter (variants : List KeywordSet) :
    closedAbove gen.registry.dependencies (gen.activeAfter pass plan seed variants).toSet =
      closedAbove gen.registry.dependencies (gen.baseFields pass plan seed variants) := by
  induction variants using List.reverseRecOn with
  | nil =>
    have hstart : (gen.activeAfter pass plan seed []).toSet =
        gen.baseFields pass plan seed [] := by
      ext a
      simp [activeAfter, Draft.start, NameSet.toSet, baseFields]
    rw [hstart]
  | append_singleton variants v ih =>
    rw [activeAfter_concat, Closure.closedAbove_close, closedAbove_insertAll, ih]
    ext T
    constructor
    · rintro ⟨⟨hbase, hclosed⟩, hseeds⟩
      refine ⟨?_, hclosed⟩
      rintro a (ha | ha | ⟨w, hw, ha⟩)
      · exact hbase (.inl ha)
      · exact hbase (.inr (.inl ha))
      · rcases List.mem_append.1 hw with hw | hw
        · exact hbase (.inr (.inr ⟨w, hw, ha⟩))
        · exact hseeds a (List.mem_singleton.1 hw ▸ ha)
    · rintro ⟨hbase, hclosed⟩
      refine ⟨⟨(baseFields_mono (List.subset_append_left _ _)).trans hbase, hclosed⟩, ?_⟩
      exact fun a ha => hbase (.inr (.inr ⟨v, List.mem_append_right _ List.mem_cons_self, ha⟩))

/-- After some variants, the active fields are the least closed set. -/
theorem isLeast_activeAfter (gen : Generator) (pass : Pass) (plan : Plan) (seed : NameSet)
    {variants : List KeywordSet} (hne : variants ≠ []) :
    IsLeast (closedAbove gen.registry.dependencies (gen.baseFields pass plan seed variants))
      (gen.activeAfter pass plan seed variants).toSet := by
  rw [← closedAbove_activeAfter]
  obtain ⟨rest, v, rfl⟩ := (List.eq_nil_or_concat' variants).resolve_left hne
  refine ⟨⟨subset_rfl, ?_⟩, fun T hT => hT.1⟩
  rw [activeAfter_concat]
  exact (Closure.isLeast_close _ _).1.2

theorem getElem?_branches_draft {i : Nat} {v : KeywordSet} (hv : plan.variants[i]? = some v) :
    (gen.draft pass plan seed).branches[i]? = some ⟨v, gen.sectionsOf pass plan v
      (gen.activeAfter pass plan seed (plan.variants.take (i + 1)))⟩ := by
  rw [branches_draft, List.getElem?_map, List.getElem?_zipIdx, hv]
  simp only [Option.map_some, Nat.zero_add]

theorem variants_ne_nil : plan.variants ≠ [] :=
  List.append_ne_nil_of_right_ne_nil _ (List.cons_ne_nil _ _)

theorem active_generate (hplan : gen.plan pass = .ok plan) :
    (gen.generate pass seed).active = gen.activeAfter pass plan seed plan.variants := by
  unfold generate
  rw [hplan]
  rfl

theorem active_of_result (hplan : gen.plan pass = .ok plan) {p : GeneratedPass}
    (hp : (gen.generate pass seed).result = .ok p) :
    p.active = gen.activeAfter pass plan seed plan.variants := by
  have hfinish : gen.finish pass plan (gen.draft pass plan seed) = .ok p := by
    unfold generate at hp
    rw [hplan] at hp
    exact hp
  obtain ⟨spliced, -, hp⟩ := bind_eq_ok_iff.1 hfinish
  rw [← pure_eq_ok_iff.1 hp]
  rfl

end Generator

end PassForge
