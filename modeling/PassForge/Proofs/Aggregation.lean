import PassForge.Generator.Branch
import PassForge.Proofs.Plan

/-!
# What a list of nodes needs

Requirements are united component by component.  What can be asked about them comes down to *flags*:
`none` has no flag, and a union has the flags of either side.  There are enough flags to tell all
requirements apart (`Requirements.eq_of_flags`), so equations between requirements are proved one
flag at a time.

* `MaterialGraph.flag_requirements`: a list of nodes has the flags that some node of it has.
* `MaterialGraph.mem_fields_requirements_iff`: the names of its members are those of its nodes.
* `MaterialGraph.requirements_aggregate`: so neither order nor repetitions nor keys without a node
  count, and activating the fields of a list at once is activating them node by node.
-/

namespace PassForge

/-! ### Flags -/

theorem Spaces.eq_of_has {s t : Spaces} (h : ∀ x, s.has x = t.has x) : s = t := by
  cases s
  cases t
  exact (mk.injEq ..).mpr ⟨h .object, h .view, h .world, h .tangent⟩

theorem Channels.eq_of_has {c d : Channels} (h : ∀ x, c.has x = d.has x) : c = d := by
  cases c
  cases d
  exact (mk.injEq ..).mpr ⟨h .uv0, h .uv1, h .uv2, h .uv3⟩

namespace Requirements

variable {r s : Requirements}

/-- Something that requirements have or do not have.  Without any requirement it is not there, and a
union has it if either side does. -/
structure IsFlag (f : Requirements → Bool) : Prop where
  none : f .none = false
  union : ∀ r s, f (r.union s) = (f r || f s)

theorem IsFlag.foldl_union {f : Requirements → Bool} (hf : IsFlag f) (l : List Node)
    (r : Requirements) : f (l.foldl (fun r n => r.union n.requirements) r) =
      (f r || l.any fun n => f n.requirements) := by
  induction l generalizing r with
  | nil => simp
  | cons n l ih => rw [List.foldl_cons, ih, hf.union, List.any_cons, Bool.or_assoc]

theorem isFlag_has (need : Need) : IsFlag fun r => r.has need where
  none := by
    cases need with
    | vector kind space => cases kind <;> cases space <;> rfl
    | uv channel => cases channel <;> rfl
    | _ => rfl
  union := fun r s => has_union r s need

theorem isFlag_depthTexture : IsFlag depthTexture := ⟨rfl, fun _ _ => rfl⟩

theorem isFlag_opaqueTexture : IsFlag opaqueTexture := ⟨rfl, fun _ _ => rfl⟩

theorem eq_of_flags (h : ∀ f, IsFlag f → f r = f s) : r = s := by
  have hhas : ∀ need, r.has need = s.has need := fun need => h _ (isFlag_has need)
  have hspaces : ∀ kind, r.spaces kind = s.spaces kind := fun kind =>
    Spaces.eq_of_has fun space => hhas (.vector kind space)
  have huv : r.uv = s.uv := Channels.eq_of_has fun channel => hhas (.uv channel)
  have hdepth := h _ isFlag_depthTexture
  have hopaque := h _ isFlag_opaqueTexture
  cases r
  cases s
  exact (mk.injEq ..).mpr ⟨hspaces .normal, hspaces .tangent, hspaces .bitangent,
    hspaces .viewDirection, hspaces .position, huv, hhas .screenPosition, hhas .vertexColor,
    hhas .faceSign, hdepth, hopaque⟩

/-! ### Names of members -/

theorem mem_fields_iff {stage : Stage} {name : String} : name ∈ r.fields stage ↔
    ∃ need ∈ Need.all, need.availableIn stage = true ∧ need.field = name ∧ r.has need = true := by
  simp only [fields, needs, List.mem_map, List.mem_filter, Bool.and_eq_true]
  constructor
  · rintro ⟨need, ⟨hall, hhas, havailable⟩, rfl⟩
    exact ⟨need, hall, havailable, rfl, hhas⟩
  · rintro ⟨need, hall, havailable, rfl, hhas⟩
    exact ⟨need, ⟨hall, hhas, havailable⟩, rfl⟩

theorem nodup_fields (r : Requirements) (stage : Stage) : (r.fields stage).Nodup := by
  have hall : (Need.all.map Need.field).Nodup := by decide
  exact (List.filter_sublist.map Need.field).nodup hall

end Requirements

namespace MaterialGraph

variable {g : MaterialGraph} {ids : List NodeId}

/-! ### Lists of nodes -/

/-- The nodes of a list of keys.  Keys without a node are left out. -/
def liveNodes (g : MaterialGraph) (ids : List NodeId) : List Node := ids.filterMap g.node?

theorem flag_requirements {f : Requirements → Bool} (hf : Requirements.IsFlag f)
    (g : MaterialGraph) (ids : List NodeId) :
    f (g.requirements ids) = (g.liveNodes ids).any fun n => f n.requirements := by
  rw [requirements, hf.foldl_union, hf.none, Bool.false_or, liveNodes]

/-- Only the nodes count, not how often and in which order they come. -/
theorem requirements_congr {xs ys : List NodeId}
    (h : ∀ n, n ∈ g.liveNodes xs ↔ n ∈ g.liveNodes ys) : g.requirements xs = g.requirements ys := by
  refine Requirements.eq_of_flags fun f hf => ?_
  rw [flag_requirements hf, flag_requirements hf, Bool.eq_iff_iff, List.any_eq_true,
    List.any_eq_true]
  simp only [h]

theorem requirements_append (g : MaterialGraph) (xs ys : List NodeId) :
    g.requirements (xs ++ ys) = (g.requirements xs).union (g.requirements ys) := by
  refine Requirements.eq_of_flags fun f hf => ?_
  rw [hf.union, flag_requirements hf, flag_requirements hf, flag_requirements hf, liveNodes,
    List.filterMap_append, List.any_append, liveNodes, liveNodes]

theorem mem_fields_requirements_iff {stage : Stage} {name : String} :
    name ∈ (g.requirements ids).fields stage ↔
      ∃ n ∈ g.liveNodes ids, name ∈ n.requirements.fields stage := by
  simp only [Requirements.mem_fields_iff, flag_requirements (Requirements.isFlag_has _),
    List.any_eq_true]
  constructor
  · rintro ⟨need, hall, havailable, hname, n, hn, hhas⟩
    exact ⟨n, hn, need, hall, havailable, hname, hhas⟩
  · rintro ⟨n, hn, need, hall, havailable, hname, hhas⟩
    exact ⟨need, hall, havailable, hname, n, hn, hhas⟩

/-! ### Active fields -/

/-- Activates the fields that nodes need, one node after the other. -/
def activateEach (stage : Stage) (struct : String) (active : NameSet) (nodes : List Node) :
    NameSet :=
  nodes.foldl (fun s n => s.insertAll (n.requirements.qualifiedFields stage struct)) active

theorem mem_activateEach {stage : Stage} {struct : String} {active : NameSet} {nodes : List Node}
    {field : String} : field ∈ activateEach stage struct active nodes ↔
      field ∈ active ∨ ∃ n ∈ nodes, field ∈ n.requirements.qualifiedFields stage struct := by
  unfold activateEach
  induction nodes generalizing active with
  | nil => simp
  | cons n nodes ih =>
    rw [List.foldl_cons, ih, NameSet.mem_insertAll, List.exists_mem_cons_iff, or_assoc]

theorem insertAll_requirements {nodes : List Node} (h : ∀ n, n ∈ nodes ↔ n ∈ g.liveNodes ids)
    (stage : Stage) (struct : String) (active : NameSet) :
    active.insertAll ((g.requirements ids).qualifiedFields stage struct) =
      activateEach stage struct active nodes := by
  refine NameSet.ext fun field => ?_
  rw [NameSet.mem_insertAll, mem_activateEach]
  refine or_congr_right ?_
  simp only [Requirements.qualifiedFields, List.mem_map, mem_fields_requirements_iff, h]
  constructor
  · rintro ⟨name, ⟨n, hn, hname⟩, rfl⟩
    exact ⟨n, hn, name, hname, rfl⟩
  · rintro ⟨n, hn, name, hname, rfl⟩
    exact ⟨name, ⟨n, hn, hname⟩, rfl⟩

/-- **What a list of nodes needs is what its nodes need.**  It depends on nothing but the set of the
nodes in the list.  A list put together from two needs what either needs.  The members that a list
asks of a stage are all different, and are those that some node of it asks for.  So activating the
fields of a list at once is activating them node by node, whatever the order and however often a
node comes; and this is how the fields of a stage are activated in a variant of a pass. -/
theorem requirements_aggregate (g : MaterialGraph) :
    (∀ xs ys, (∀ n, n ∈ g.liveNodes xs ↔ n ∈ g.liveNodes ys) →
      g.requirements xs = g.requirements ys) ∧
    (∀ xs ys, g.requirements (xs ++ ys) = (g.requirements xs).union (g.requirements ys)) ∧
    (∀ ids stage, ((g.requirements ids).fields stage).Nodup ∧
      ∀ name, name ∈ (g.requirements ids).fields stage ↔
        ∃ n ∈ g.liveNodes ids, name ∈ n.requirements.fields stage) ∧
    (∀ ids nodes, (∀ n, n ∈ nodes ↔ n ∈ g.liveNodes ids) → ∀ stage struct active,
      active.insertAll ((g.requirements ids).qualifiedFields stage struct) =
        activateEach stage struct active nodes) ∧
    ∀ (gen : Generator) pass plan, gen.graph = g → gen.plan pass = .ok plan →
      ∀ p ∈ plan.stages, ∀ v nodes, (∀ n, n ∈ nodes ↔ n ∈ g.liveNodes (p.nodesOf v)) →
        ∀ active : NameSet, active.insertAll (gen.stageSeeds p v) =
          (activateEach p.stage p.stage.names.inputStruct active nodes).insertAll
            (g.outputFields gen.root p.slots p.stage.names) := by
  refine ⟨fun xs ys h => requirements_congr h, g.requirements_append, fun ids stage =>
    ⟨(g.requirements ids).nodup_fields stage, fun name => mem_fields_requirements_iff⟩,
    fun ids nodes h => insertAll_requirements h, ?_⟩
  rintro gen pass plan rfl hplan p hp v nodes h active
  -- a stage activates what its nodes need, and then what it computes
  rw [← insertAll_requirements h, ← Generator.requirements_of_plan hplan hp, Generator.stageSeeds]
  exact List.foldl_append

/-- The tint of `stone` has been removed and added again under another key.  A list with a node
twice and one with the old key need the same, and in snow the nodes may be taken backwards. -/
theorem requirements_aggregate_stone :
    (∀ n, n ∈ stone.liveNodes [⟨2, 1⟩, ⟨1, 3⟩, ⟨2, 1⟩] ↔
      n ∈ stone.liveNodes [⟨1, 1⟩, ⟨1, 3⟩, ⟨2, 1⟩]) ∧
    stone.requirements [⟨2, 1⟩, ⟨1, 3⟩, ⟨2, 1⟩] = stone.requirements [⟨1, 1⟩, ⟨1, 3⟩, ⟨2, 1⟩] ∧
    (stone.requirements [⟨2, 1⟩, ⟨1, 3⟩, ⟨2, 1⟩]).fields .pixel = ["WorldSpaceNormal", "uv0"] ∧
    ∃ plan, Generator.stone.plan (.forward true [0] [1]) = .ok plan ∧
      NameSet.insertAll ∅ (Generator.stone.stageSeeds plan.pixel (.ofList ["SNOW"])) =
        (activateEach plan.pixel.stage plan.pixel.stage.names.inputStruct ∅
          (stone.liveNodes (plan.pixel.nodesOf (.ofList ["SNOW"]))).reverse).insertAll
            (stone.outputFields ⟨4, 1⟩ plan.pixel.slots plan.pixel.stage.names) := by
  obtain ⟨hcongr, -, -, -, hseeds⟩ := requirements_aggregate stone
  have hlive : ∀ n, n ∈ stone.liveNodes [⟨2, 1⟩, ⟨1, 3⟩, ⟨2, 1⟩] ↔
      n ∈ stone.liveNodes [⟨1, 1⟩, ⟨1, 3⟩, ⟨2, 1⟩] := by
    have hgone : stone.node? ⟨1, 1⟩ = none := rfl
    intro n
    simp only [liveNodes, List.mem_filterMap, List.mem_cons, List.not_mem_nil, or_false,
      exists_eq_or_imp, exists_eq_left, hgone, reduceCtorEq, false_or]
    constructor
    · rintro (h | h | h)
      · exact .inr h
      · exact .inl h
      · exact .inr h
    · exact .inr
  obtain ⟨plan, hplan, -⟩ := Generator.exists_plan_stone
  refine ⟨hlive, hcongr _ _ hlive, by decide, plan, hplan, ?_⟩
  exact hseeds Generator.stone _ plan rfl hplan plan.pixel (Plan.mem_stages_iff.2 (.inl rfl)) _ _
    (fun n => List.mem_reverse) ∅

end MaterialGraph

end PassForge
