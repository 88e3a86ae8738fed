import Mathlib.Data.List.Find
import PassForge.Proofs.Enumeration

/-!
# Keywords outside the vocabulary do not matter

The code of a branch is written for a variant, a set of keywords out of the vocabulary; but it is
entered under any keywords whose restriction to the vocabulary is that variant.  The two agree: the
walks of a pass never come to a switch that asks for a keyword outside the vocabulary.

* `Generator.asksFor_of_mem_walkFrom`: the groups are collected by walks without keywords, and a
  walk with keywords goes no further, so all it can ask for is in the vocabulary.
* `Node.inputsFor_inter`, `MaterialGraph.walkFrom_inter`: so the restriction changes neither the
  inputs that count nor the walk.
* `MaterialGraph.evaluationFunction_congr`: nor the code.
* `Generator.walk_restricted`: all of this for the stages of a pass, and for the branch entered.
-/

namespace PassForge

variable {defined vocabulary active active' : KeywordSet}

/-! ### Switches and nodes -/

/-- All keywords a switch asks for are in the vocabulary. -/
def Switch.AsksFor (s : Switch) (vocabulary : KeywordSet) : Prop :=
  ∀ r ∈ s.routes, r.option ≠ defaultOption → r.option ∈ vocabulary

/-- All keywords the switches of a node ask for are in the vocabulary. -/
def Node.AsksFor (n : Node) (vocabulary : KeywordSet) : Prop :=
  ∀ s ∈ n.switches.getD [], s.AsksFor vocabulary

/-- Two sets of keywords make the same choices in a node. -/
def Node.ChoosesAlike (n : Node) (active active' : KeywordSet) : Prop :=
  ∀ s ∈ n.switches.getD [], s.selected active = s.selected active'

theorem Switch.selected_inter {s : Switch} (h : s.AsksFor vocabulary) :
    s.selected (defined.inter vocabulary) = s.selected defined := by
  have hactive : s.activeRoute? (defined.inter vocabulary) = s.activeRoute? defined := by
    unfold activeRoute?
    refine List.find?_congr fun r hr => ?_
    by_cases hoption : r.option = defaultOption
    · simp [hoption]
    · have hcontains : (defined.inter vocabulary).contains r.option =
          defined.contains r.option := by
        rw [Bool.eq_iff_iff, NameSet.contains_iff, NameSet.contains_iff, NameSet.mem_inter]
        exact and_iff_left (h r hr hoption)
      rw [hcontains]
  rw [selected, selected, hactive]

namespace Node

variable {n : Node}

theorem choosesAlike_inter (h : n.AsksFor vocabulary) :
    n.ChoosesAlike (defined.inter vocabulary) defined :=
  fun s hs => Switch.selected_inter (h s hs)

theorem follows_congr {switches : List Switch} {slot : SlotId}
    (h : ∀ s ∈ switches, s.selected active = s.selected active') :
    follows switches active slot = follows switches active' slot := by
  have hany : (switches.filter (·.leadsTo slot)).any (·.selected active == some slot) =
      (switches.filter (·.leadsTo slot)).any (·.selected active' == some slot) := by
    rw [Bool.eq_iff_iff, List.any_eq_true, List.any_eq_true]
    refine exists_congr fun s => and_congr_right fun hs => ?_
    rw [h s (List.mem_filter.1 hs).1]
  rw [follows, follows, hany]

theorem inputsFor_congr (h : n.ChoosesAlike active active') :
    n.inputsFor active = n.inputsFor active' := by
  unfold inputsFor
  cases hswitches : n.switches with
  | none => rfl
  | some switches =>
    unfold ChoosesAlike at h
    rw [hswitches] at h
    exact List.filter_congr fun slot _ => follows_congr h

end Node

/-! ### Walks and code -/

namespace MaterialGraph

variable {g : MaterialGraph} {root : NodeId} {slots : List SlotId} {ids : List NodeId}

theorem feeders_congr {id : NodeId}
    (h : ∀ n, g.node? id = some n → n.ChoosesAlike active active') :
    g.feeders root ⟨some slots, some active⟩ id = g.feeders root ⟨some slots, some active'⟩ id := by
  have hfollowed : g.followed root ⟨some slots, some active⟩ id =
      g.followed root ⟨some slots, some active'⟩ id := by
    unfold followed
    cases hn : g.node? id with
    | none => rfl
    | some n => simp only [Node.inputsUnder, Node.inputsFor_congr (h n hn)]
  rw [feeders, feeders, hfollowed]

/-- **A walk does not notice keywords that no switch on its way asks for.** -/
theorem walkFrom_inter
    (h : ∀ id ∈ g.walkFrom root ⟨some slots, none⟩ [], ∀ n, g.node? id = some n →
      n.AsksFor vocabulary) :
    g.walkFrom root ⟨some slots, some (defined.inter vocabulary)⟩ [] =
      g.walkFrom root ⟨some slots, some defined⟩ [] :=
  walkFrom_congr fun id hid => feeders_congr fun n hn =>
    Node.choosesAlike_inter (h id (mem_walkFrom_of_gated hid) n hn)

theorem passedOn_congr {id : NodeId} {n : Node} {output : Slot}
    (h : n.ChoosesAlike active active') :
    g.passedOn id n active output = g.passedOn id n active' output := by
  have hchosen : (n.switches.bind List.head?).bind (·.selected active) =
      (n.switches.bind List.head?).bind (·.selected active') := by
    unfold Node.ChoosesAlike at h
    cases hswitches : n.switches with
    | none => rfl
    | some switches =>
      cases switches with
      | nil => rfl
      | cons s rest =>
        rw [hswitches] at h
        exact h s List.mem_cons_self
  rw [passedOn, passedOn, hchosen]

theorem nodeBody_congr {id : NodeId} {n : Node} (h : n.ChoosesAlike active active') :
    g.nodeBody id n active = g.nodeBody id n active' := by
  have hcompute : g.compute id n active = g.compute id n active' := by
    unfold compute
    cases n.code with
    | some code => rfl
    | none => exact List.map_congr_left fun s _ => by rw [passedOn_congr h]
  rw [nodeBody, nodeBody, hcompute]

theorem evaluationFunction_congr {names : StageNames}
    (h : ∀ id ∈ ids, ∀ n, g.node? id = some n → n.ChoosesAlike active active') :
    g.evaluationFunction root ids slots active names =
      g.evaluationFunction root ids slots active' names := by
  have hbody : g.nodesBody root ids active = g.nodesBody root ids active' := by
    unfold nodesBody
    refine List.flatMap_congr fun id hid => ?_
    cases hn : g.node? id with
    | none => rfl
    | some n => exact nodeBody_congr (h id (List.mem_filter.1 hid).1 n hn)
  rw [evaluationFunction, evaluationFunction, evaluationBody, evaluationBody, hbody]

end MaterialGraph

/-! ### The groups of a pass -/

theorem Node.exists_mem_groups {n : Node} {s : Switch} {r : Route}
    (hs : s ∈ n.switches.getD []) (hr : r ∈ s.routes) : ∃ g ∈ n.groups, r.option ∈ g.options := by
  refine ⟨s.group, List.mem_map.2 ⟨s, hs, rfl⟩, ?_⟩
  exact List.mem_eraseDups.2 (List.mem_map.2 ⟨r, hr, rfl⟩)

namespace GroupTable

variable {t t' : GroupTable} {g : MaterialGraph} {root : NodeId} {slots : List SlotId}

theorem collect_eq_ok (h : t.collect g root slots = .ok t') :
    t' = t.insertAll (((g.walkFrom root ⟨some slots, none⟩ []).filterMap g.node?).flatMap
      Node.groups) := by
  simp only [collect, bind_eq_ok_iff, pure_eq_ok_iff, MaterialGraph.walk_eq_ok_iff] at h
  obtain ⟨ids, ⟨-, rfl⟩, rfl⟩ := h
  rfl

theorem Offers.collect {k : String} (h : t.Offers k) (hcollect : t.collect g root slots = .ok t') :
    t'.Offers k := by
  rw [collect_eq_ok hcollect, offers_insertAll_iff]
  exact .inl h

/-- The options of all switches on the way are on offer. -/
theorem offers_of_collect (hcollect : t.collect g root slots = .ok t') {id : NodeId} {n : Node}
    {s : Switch} {r : Route} (hid : id ∈ g.walkFrom root ⟨some slots, none⟩ [])
    (hn : g.node? id = some n) (hs : s ∈ n.switches.getD []) (hr : r ∈ s.routes) :
    t'.Offers r.option := by
  rw [collect_eq_ok hcollect, offers_insertAll_iff]
  obtain ⟨group, hgroup, hoption⟩ := Node.exists_mem_groups hs hr
  have hnode : n ∈ (g.walkFrom root ⟨some slots, none⟩ []).filterMap g.node? :=
    List.mem_filterMap.2 ⟨id, hid, hn⟩
  exact .inr ⟨group, List.mem_flatMap.2 ⟨n, hnode, hgroup⟩, hoption⟩

end GroupTable

namespace Generator

variable {gen : Generator} {vertexSlots pixelSlots slots : List SlotId} {limit : Nat}
  {groups : GroupTable} {found : VariantSet}

/-- **The vocabulary has all keywords that any walk of a pass can ask for.** -/
theorem asksFor_of_mem_walkFrom (hgroups : gen.collectGroups vertexSlots pixelSlots = .ok groups)
    (hfound : groups.enumerate limit = .ok found) (hslots : slots ∈ [vertexSlots, pixelSlots])
    {id : NodeId} (hid : id ∈ gen.graph.walkFrom gen.root ⟨some slots, none⟩ []) {n : Node}
    (hn : gen.graph.node? id = some n) : n.AsksFor found.vocabulary := by
  intro s hs r hr hoption
  obtain ⟨first, hfirst, hsecond⟩ := bind_eq_ok_iff.1 hgroups
  rw [GroupTable.mem_vocabulary_of_enumerate_iff hfound]
  refine ⟨hoption, ?_⟩
  rcases List.mem_pair.1 hslots with rfl | rfl
  · exact (GroupTable.offers_of_collect hfirst hid hn hs hr).collect hsecond
  · exact GroupTable.offers_of_collect hsecond hid hn hs hr

theorem exists_root (hgroups : gen.collectGroups vertexSlots pixelSlots = .ok groups) :
    ∃ n, gen.graph.node? gen.root = some n := by
  obtain ⟨first, hfirst, -⟩ := bind_eq_ok_iff.1 hgroups
  obtain ⟨ids, hwalk, -⟩ := bind_eq_ok_iff.1 hfirst
  exact (MaterialGraph.walk_eq_ok_iff.1 hwalk).1

theorem choosesAlike_of_mem_walkFrom
    (hgroups : gen.collectGroups vertexSlots pixelSlots = .ok groups)
    (hfound : groups.enumerate limit = .ok found) (hslots : slots ∈ [vertexSlots, pixelSlots])
    {id : NodeId} (hid : id ∈ gen.graph.walkFrom gen.root ⟨some slots, some defined⟩ []) {n : Node}
    (hn : gen.graph.node? id = some n) :
    n.ChoosesAlike (defined.inter found.vocabulary) defined :=
  Node.choosesAlike_inter (asksFor_of_mem_walkFrom hgroups hfound hslots
    (MaterialGraph.mem_walkFrom_of_gated hid) hn)

/-- The nodes and the code planned for a variant are those of the graph under all keywords that
select the variant. -/
theorem evaluationOf_inter (hgroups : gen.collectGroups vertexSlots pixelSlots = .ok groups)
    (hfound : groups.enumerate limit = .ok found) (hslots : slots ∈ [vertexSlots, pixelSlots])
    (hmem : defined.inter found.vocabulary ∈ found.ordered) {stage : Stage} {p : StagePlan}
    (hp : gen.planStage stage slots found.ordered = .ok p) :
    p.nodesOf (defined.inter found.vocabulary) =
      gen.graph.walkFrom gen.root ⟨some slots, some defined⟩ [] ∧
    gen.evaluationOf p (defined.inter found.vocabulary) =
      gen.graph.evaluationFunction gen.root
        (gen.graph.walkFrom gen.root ⟨some slots, some defined⟩ []) slots defined stage.names := by
  obtain ⟨n, hroot⟩ := exists_root hgroups
  obtain ⟨rfl, rfl, hnodes⟩ := of_planStage_eq_ok hroot hp
  have hsame : p.nodesOf (defined.inter found.vocabulary) =
      gen.graph.walkFrom gen.root ⟨some p.slots, some defined⟩ [] := by
    rw [hnodes _ hmem]
    exact MaterialGraph.walkFrom_inter fun id hid n hn =>
      asksFor_of_mem_walkFrom hgroups hfound hslots hid hn
  refine ⟨hsame, ?_⟩
  rw [evaluationOf, hsame]
  exact MaterialGraph.evaluationFunction_congr fun id hid n hn =>
    choosesAlike_of_mem_walkFrom hgroups hfound hslots hid hn

/-- The branch that is entered, with what it holds. -/
theorem exists_entered_branch (pass : Pass) {plan : Plan} (seed : NameSet)
    (hmem : defined.inter plan.vocabulary ∈ plan.variants) :
    ∃ condition branch active, Condition.entered? defined
      ((Condition.ofVariants plan.vocabulary plan.variants).zip
        (gen.draft pass plan seed).branches) = some (condition, branch) ∧
      branch = ⟨defined.inter plan.vocabulary,
        gen.sectionsOf pass plan (defined.inter plan.vocabulary) active⟩ := by
  obtain ⟨condition, hentered⟩ := VariantSet.exists_entered_of_mem hmem
  have hzip : (Condition.entered? defined ((Condition.ofVariants plan.vocabulary plan.variants).zip
      (gen.draft pass plan seed).branches)).map (Prod.map id Branch.variant) =
        some (condition, defined.inter plan.vocabulary) := by
    rw [← Condition.entered?_zip_map, map_variant_draft]
    exact hentered
  obtain ⟨⟨condition', branch⟩, hbranch, heq⟩ := Option.map_eq_some_iff.1 hzip
  obtain ⟨rfl, hvariant⟩ := Prod.mk.inj heq
  have hbranches : branch ∈ (gen.draft pass plan seed).branches :=
    (List.of_mem_zip (List.mem_of_find?_eq_some hbranch)).2
  rw [branches_draft] at hbranches
  obtain ⟨⟨v, i⟩, -, rfl⟩ := List.mem_map.1 hbranches
  cases hvariant
  exact ⟨_, _, _, hbranch, rfl⟩

/-- **The code of a branch is what the graph means.**  Whatever keywords are defined, in each of the
two stages: the walk lists the nodes that it lists under the defined keywords of the vocabulary, in
the same order and all of them found without keywords too, and their switches choose alike.  So if
these keywords are a variant, the branch entered is written from the nodes, and has the code, of the
graph under the defined keywords. -/
theorem walk_restricted (hgroups : gen.collectGroups vertexSlots pixelSlots = .ok groups)
    (hfound : groups.enumerate limit = .ok found) (defined : KeywordSet) :
    (∀ slots ∈ [vertexSlots, pixelSlots], ∃ ids structural,
      gen.graph.walk gen.root ⟨some slots, some defined⟩ = .ok ids ∧
      gen.graph.walk gen.root ⟨some slots, some (defined.inter found.vocabulary)⟩ = .ok ids ∧
      gen.graph.walk gen.root ⟨some slots, none⟩ = .ok structural ∧
      ids ⊆ structural ∧
      ∀ id ∈ ids, ∀ n, gen.graph.node? id = some n → ∀ switches, n.switches = some switches →
        ∀ s ∈ switches, s.selected (defined.inter found.vocabulary) = s.selected defined) ∧
    (defined.inter found.vocabulary ∈ found.ordered → ∀ (pass : Pass) (seed : NameSet),
      gen.settings.maxVariants = limit →
      gen.graph.resolveSlots gen.root pass.pixelSlots = .ok pixelSlots →
      gen.graph.resolveSlots gen.root pass.vertexSlots = .ok vertexSlots →
      ∃ plan condition branch vertexIds pixelIds, gen.plan pass = .ok plan ∧
        Condition.entered? defined ((Condition.ofVariants found.vocabulary found.ordered).zip
          (gen.draft pass plan seed).branches) = some (condition, branch) ∧
        branch.variant = defined.inter found.vocabulary ∧
        gen.graph.walk gen.root ⟨some vertexSlots, some defined⟩ = .ok vertexIds ∧
        gen.graph.walk gen.root ⟨some pixelSlots, some defined⟩ = .ok pixelIds ∧
        plan.vertex.nodesOf branch.variant = vertexIds ∧
        plan.pixel.nodesOf branch.variant = pixelIds ∧
        (plan.vertexActive = true → branch.sections.vertexEvaluation =
          gen.graph.evaluationFunction gen.root vertexIds vertexSlots defined
            Stage.vertex.names) ∧
        branch.sections.pixelEvaluation =
          gen.graph.evaluationFunction gen.root pixelIds pixelSlots defined Stage.pixel.names) := by
  have hroot := exists_root hgroups
  have hwalk : ∀ gate, gen.graph.walk gen.root gate = .ok (gen.graph.walkFrom gen.root gate []) :=
    fun gate => MaterialGraph.walk_eq_ok_iff.2 ⟨hroot, rfl⟩
  constructor
  · intro slots hslots
    refine ⟨_, _, hwalk _, ?_, hwalk _, fun id hid => MaterialGraph.mem_walkFrom_of_gated hid, ?_⟩
    · rw [hwalk, MaterialGraph.walkFrom_inter fun id hid n hn =>
        asksFor_of_mem_walkFrom hgroups hfound hslots hid hn]
    · intro id hid n hn switches hswitches s hs
      refine choosesAlike_of_mem_walkFrom hgroups hfound hslots hid hn s ?_
      rw [hswitches]
      exact hs
  · rintro hmem pass seed rfl hpixel hvertex
    obtain ⟨plan, hplan, rfl, hp, hv⟩ := exists_plan pass hpixel hvertex hgroups hfound
    obtain ⟨condition, branch, active, hentered, rfl⟩ :=
      gen.exists_entered_branch pass seed hmem
    obtain ⟨hpixelNodes, hpixelCode⟩ := evaluationOf_inter hgroups hfound
      (List.mem_cons_of_mem _ List.mem_cons_self) hmem hp
    obtain ⟨hvertexNodes, hvertexCode⟩ := evaluationOf_inter hgroups hfound
      List.mem_cons_self hmem hv
    refine ⟨plan, condition, _, _, _, hplan, hentered, rfl, hwalk _, hwalk _, hvertexNodes,
      hpixelNodes, fun hactive => ?_, hpixelCode⟩
    simp only [sectionsOf, hactive, if_true]
    exact hvertexCode

/-- Snow under a keyword that no switch asks for: the branch of snow alone is entered, written from
the nodes that both sets of keywords lead to. -/
theorem walk_restricted_stone :
    stone.collectGroups [1] [0] = .ok stoneGroups ∧
    stoneGroups.enumerate 256 = .ok stoneVariants ∧
    (stone.graph.walk stone.root ⟨some [0], some (.ofList ["LIT", "SNOW"])⟩ =
        .ok [⟨1, 3⟩, ⟨2, 1⟩, ⟨3, 1⟩, ⟨4, 1⟩] ∧
      stone.graph.walk stone.root ⟨some [0], some (.ofList ["SNOW"])⟩ =
        .ok [⟨1, 3⟩, ⟨2, 1⟩, ⟨3, 1⟩, ⟨4, 1⟩]) ∧
    ∃ plan condition branch, stone.plan (.forward true [0] [1]) = .ok plan ∧
      Condition.entered? (.ofList ["LIT", "SNOW"])
        ((Condition.ofVariants stoneVariants.vocabulary stoneVariants.ordered).zip
          (stone.draft (.forward true [0] [1]) plan ∅).branches) = some (condition, branch) ∧
      branch.variant = .ofList ["SNOW"] ∧
      plan.pixel.nodesOf branch.variant = [⟨1, 3⟩, ⟨2, 1⟩, ⟨3, 1⟩, ⟨4, 1⟩] ∧
      branch.sections.pixelEvaluation = stone.graph.evaluationFunction stone.root
        [⟨1, 3⟩, ⟨2, 1⟩, ⟨3, 1⟩, ⟨4, 1⟩] [0] (.ofList ["LIT", "SNOW"]) Stage.pixel.names := by
  have hinter : (NameSet.ofList ["LIT", "SNOW"]).inter stoneVariants.vocabulary =
      .ofList ["SNOW"] := by decide
  obtain ⟨hwalks, hbranch⟩ :=
    walk_restricted collectGroups_stone enumerate_stoneGroups (.ofList ["LIT", "SNOW"])
  rw [hinter] at hbranch
  obtain ⟨ids, -, hdefined, hrestricted, -⟩ := hwalks [0] (by decide)
  rw [hinter] at hrestricted
  cases hrestricted.symm.trans MaterialGraph.walk_stone_snow
  obtain ⟨plan, condition, branch, -, pixelIds, hplan, hentered, hvariant, -, hids, -, hnodes, -,
    hcode⟩ := hbranch (by decide) (.forward true [0] [1]) ∅ rfl rfl rfl
  cases hids.symm.trans hdefined
  exact ⟨collectGroups_stone, enumerate_stoneGroups, ⟨hdefined, hrestricted⟩, plan, condition,
    branch, hplan, hentered, hvariant, hnodes, hcode⟩

end Generator

end PassForge
