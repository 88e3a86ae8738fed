import Mathlib.Data.Option.Basic
import PassForge.Generator.Basic
import PassForge.Proofs.Collect
import PassForge.Proofs.Gating

/-!
# What a pass depends on

A pass is generated from the nodes that its root reaches through the slots of its two stages.  Two
graphs that agree there (`MaterialGraph.Agrees`) should give the same pass, whatever else they hold.

They do as long as edges end in inputs.  After `replaceNode` an edge can be left that ends in a slot
which is no input any more.  No walk follows it, but the code of a pass still reads it in two
places: at a listed slot of the root, and where a node without code passes on what its first switch
has chosen (`MaterialGraph.Stray`).  Such an edge brings in the name of a node that no walk has
found (`Generator.generate_frayed`), so the graphs have to agree there as well
(`MaterialGraph.AgreesOnStray`); as long as edges end in inputs, there is nothing there to agree on
(`MaterialGraph.agreesOnStray_of_endsInInputs`).

`Generator.generate_onGraph` says that nothing else is read, from the walks over the plan to the
text.
-/

namespace PassForge

/-- Two computations that start alike come to the same if they go on alike. -/
theorem bind_congr_of_ok {ε α β : Type} {x : Except ε α} {f f' : α → Except ε β}
    (h : ∀ a, x = .ok a → f a = f' a) : (x >>= f) = (x >>= f') := by
  cases x with
  | error e => rfl
  | ok a => exact h a rfl

theorem Wiring.source?_insert_of_ne {w : Wiring} {e : Edge} {target : SlotRef}
    (h : target ≠ e.target) : (w.insert e).source? target = w.source? target := by
  ext source
  rw [source?_eq_some_iff, source?_eq_some_iff]
  constructor
  · intro hmem
    rcases List.mem_cons.1 hmem with rfl | hold
    · exact absurd rfl h
    · exact (List.mem_filter.1 hold).1
  · intro hmem
    exact List.mem_cons_of_mem _ (List.mem_filter.2 ⟨hmem, by simpa using h⟩)

namespace MaterialGraph

variable {g g' : MaterialGraph} {root id : NodeId} {slots part : List SlotId} {n : Node}

/-! ### Agreement -/

/-- A node is reached from the root through some of its slots, along edges that end in inputs. -/
def Reaches (g : MaterialGraph) (root : NodeId) (slots : List SlotId) (id : NodeId) : Prop :=
  Relation.ReflTransGen
    (fun a b => ∃ e, g.Follows root ⟨some slots, none⟩ e ∧ e.target.node = a ∧ e.source.node = b)
    root id

/-- Two graphs agree on the nodes that are reached and on the edges into their inputs, at the root
into the listed slots only. -/
structure Agrees (g g' : MaterialGraph) (root : NodeId) (slots : List SlotId) : Prop where
  node : ∀ id, g.Reaches root slots id → g'.node? id = g.node? id
  edge : ∀ id n, g.Reaches root slots id → g.node? id = some n → ∀ slot ∈ n.inputs.map Slot.id,
    (id = root → slot ∈ slots) → g'.source? ⟨id, slot⟩ = g.source? ⟨id, slot⟩

/-- The code of a pass reads what feeds a slot: of the root a listed slot; of another node an input
or, if it has no code, a slot that its first switch leads to. -/
def Reads (root : NodeId) (slots : List SlotId) (id : NodeId) (n : Node) (slot : SlotId) : Prop :=
  if id = root then slot ∈ slots
  else slot ∈ n.inputs.map Slot.id ∨
    n.code = none ∧ ∃ s ∈ n.switches.bind List.head?, s.leadsTo slot = true

/-- A slot is read but is no input, so that no walk follows an edge that ends there. -/
def Stray (g : MaterialGraph) (root : NodeId) (slots : List SlotId) (r : SlotRef) : Prop :=
  ∃ n, g.node? r.node = some n ∧ Reads root slots r.node n r.slot ∧
    r.slot ∉ n.inputs.map Slot.id

/-- Two graphs agree on what feeds the stray slots of nodes that are reached. -/
def AgreesOnStray (g g' : MaterialGraph) (root : NodeId) (slots : List SlotId) : Prop :=
  ∀ r, g.Reaches root slots r.node → g.Stray root slots r →
    g'.source? r = g.source? r ∧
      ∀ source ∈ g.source? r, g'.node? source.node = g.node? source.node

/-- Every edge ends in an input. -/
def EndsInInputs (g : MaterialGraph) : Prop := ∀ e ∈ g.wiring.edges, g.HasSlot e.target .input

theorem EndsInInputs.source?_eq_none (h : g.EndsInInputs) (hn : g.node? id = some n)
    {slot : SlotId} (hslot : slot ∉ n.inputs.map Slot.id) : g.source? ⟨id, slot⟩ = none := by
  rw [Option.eq_none_iff_forall_ne_some]
  intro source hsource
  exact hslot ((h _ (Wiring.source?_eq_some_iff.1 hsource)).mem_inputs hn)

/-- **Where edges end in inputs, nothing stray is read.** -/
theorem agreesOnStray_of_endsInInputs (hg : g.EndsInInputs) (hg' : g'.EndsInInputs)
    (h : g.Agrees g' root slots) : g.AgreesOnStray g' root slots := by
  rintro ⟨id, slot⟩ hid ⟨n, hn, -, hslot⟩
  have hnone := hg.source?_eq_none hn hslot
  have hnone' := hg'.source?_eq_none ((h.node id hid).trans hn) hslot
  rw [hnone, hnone']
  exact ⟨rfl, fun source hsource => absurd hsource (Option.not_mem_none source)⟩

/-! ### Walks -/

theorem reaches_root : g.Reaches root slots root := .refl

theorem Reaches.tail {m : NodeId} (h : g.Reaches root slots id)
    (hm : g.FedBy root ⟨some slots, none⟩ id m) : g.Reaches root slots m :=
  Relation.ReflTransGen.tail h (fedBy_iff_exists_follows.1 hm)

theorem Reaches.source {slot : SlotId} {source : SlotRef} (h : g.Reaches root slots id)
    (hn : g.node? id = some n) (hslot : slot ∈ n.inputs.map Slot.id)
    (hwanted : id = root → slot ∈ slots) (hsource : g.source? ⟨id, slot⟩ = some source) :
    g.Reaches root slots source.node := by
  refine h.tail (fedBy_iff.2 ⟨slot, mem_followed_iff.2 ⟨n, hn, hslot, ?_⟩, source, hsource, rfl⟩)
  intro hroot wanted hlisted
  cases hlisted
  exact hwanted hroot

/-- The nodes that are reached are those of a walk without keywords. -/
theorem mem_walkFrom_iff_reaches :
    id ∈ g.walkFrom root ⟨some slots, none⟩ [] ↔ g.Reaches root slots id := by
  have hsteps : (fun a b => ∃ e, g.Follows root ⟨some slots, none⟩ e ∧ e.target.node = a ∧
      e.source.node = b) = g.FedBy root ⟨some slots, none⟩ := by
    funext a b
    exact propext fedBy_iff_exists_follows.symm
  rw [mem_walkFrom_iff, Reaches, hsteps]

theorem reaches_of_mem_walkFrom {keywords : Option KeywordSet} (hpart : part ⊆ slots)
    (hid : id ∈ g.walkFrom root ⟨some part, keywords⟩ []) : g.Reaches root slots id := by
  have hpath := mem_walkFrom_iff_reaches.1 (mem_walkFrom_of_gated hid)
  refine Relation.ReflTransGen.mono (fun a b hab => ?_) _ _ hpath
  obtain ⟨e, he, hends⟩ := hab
  refine ⟨e, ⟨he.edge, he.counts, ?_⟩, hends⟩
  intro hroot wanted hlisted
  cases hlisted
  exact hpart (he.wanted hroot part rfl)

namespace Agrees

variable {keywords : Option KeywordSet}

theorem root_eq (h : g.Agrees g' root slots) : g'.node? root = g.node? root :=
  h.node root reaches_root

theorem node_root_eq (h : g.Agrees g' root slots) : g'.node root = g.node root := by
  rw [MaterialGraph.node, MaterialGraph.node, h.root_eq]

theorem feeders_eq (h : g.Agrees g' root slots) (hpart : part ⊆ slots)
    (hid : g.Reaches root slots id) :
    g.feeders root ⟨some part, keywords⟩ id = g'.feeders root ⟨some part, keywords⟩ id := by
  have hfollowed : g'.followed root ⟨some part, keywords⟩ id =
      g.followed root ⟨some part, keywords⟩ id := by
    unfold followed
    rw [h.node id hid]
  rw [feeders, feeders, hfollowed]
  -- a slot that is followed is an input, and at the root a listed one
  refine List.filterMap_congr fun slot hslot => ?_
  obtain ⟨n, hn, hin, hwanted⟩ := mem_followed_iff.1 hslot
  rw [h.edge id n hid hn slot (Node.mem_inputs_of_mem_inputsUnder hin)
    fun hroot => hpart (hwanted hroot part rfl)]

/-- **The walks are the same.** -/
theorem walk_eq (h : g.Agrees g' root slots) (hpart : part ⊆ slots) :
    g'.walk root ⟨some part, keywords⟩ = g.walk root ⟨some part, keywords⟩ := by
  have hsame : g.walkFrom root ⟨some part, keywords⟩ [] =
      g'.walkFrom root ⟨some part, keywords⟩ [] :=
    walkFrom_congr fun id hid => h.feeders_eq hpart (reaches_of_mem_walkFrom hpart hid)
  rw [walk, walk, collect, collect, h.node_root_eq, hsame]

theorem resolveSlots_eq (h : g.Agrees g' root slots) (ids : List SlotId) :
    g'.resolveSlots root ids = g.resolveSlots root ids := by
  rw [resolveSlots, resolveSlots, h.node_root_eq]

theorem filterMap_node?_eq (h : g.Agrees g' root slots) {ids : List NodeId}
    (hids : ∀ id ∈ ids, g.Reaches root slots id) :
    ids.filterMap g'.node? = ids.filterMap g.node? :=
  List.filterMap_congr fun id hid => h.node id (hids id hid)

end Agrees

/-! ### Code -/

theorem feeding?_congr {slot : SlotId} (hsource : g'.source? ⟨id, slot⟩ = g.source? ⟨id, slot⟩)
    (hnode : ∀ source ∈ g.source? ⟨id, slot⟩, g'.node? source.node = g.node? source.node) :
    g'.feeding? id slot = g.feeding? id slot := by
  unfold feeding?
  rw [hsource]
  cases hs : g.source? ⟨id, slot⟩ with
  | none => rfl
  | some source => simp only [Option.bind_eq_bind, Option.bind_some, hnode source hs]

theorem placeholder_congr
    (h : ∀ slot ∈ n.inputs.map Slot.id, g'.inputValue id n slot = g.inputValue id n slot)
    (name : List Char) : g'.placeholder id n name = g.placeholder id n name := by
  unfold placeholder
  cases hs : namedSlot? n name with
  | none => rfl
  | some s =>
    have hmem : s ∈ n.slots := by
      unfold namedSlot? at hs
      split at hs
      · cases hs
      · exact List.mem_of_find?_eq_some hs
    by_cases hinput : s.isInput = true
    · have hid : s.id ∈ n.inputs.map Slot.id :=
        List.mem_map.2 ⟨s, List.mem_filter.2 ⟨hmem, hinput⟩, rfl⟩
      simp only [hinput, if_true, h s.id hid]
    · simp only [hinput, Bool.false_eq_true, if_false]

theorem expandChars_congr
    (h : ∀ slot ∈ n.inputs.map Slot.id, g'.inputValue id n slot = g.inputValue id n slot)
    (cs : List Char) : g'.expandChars id n cs = g.expandChars id n cs := by
  induction cs using expandChars.induct with
  | case1 => rw [expandChars, expandChars]
  | case2 cs ih =>
    rw [expandChars, expandChars, if_pos rfl, if_pos rfl, placeholder_congr h, ih]
  | case3 c cs hc ih => rw [expandChars, expandChars, if_neg hc, if_neg hc, ih]

namespace Agrees

/-- **What feeds a slot that the code reads is the same.** -/
theorem source?_eq (h : g.Agrees g' root slots) (hstray : g.AgreesOnStray g' root slots)
    (hid : g.Reaches root slots id) (hn : g.node? id = some n) {slot : SlotId}
    (hread : Reads root slots id n slot) :
    g'.source? ⟨id, slot⟩ = g.source? ⟨id, slot⟩ ∧
      ∀ source ∈ g.source? ⟨id, slot⟩, g'.node? source.node = g.node? source.node := by
  by_cases hslot : slot ∈ n.inputs.map Slot.id
  · have hwanted : id = root → slot ∈ slots := by
      intro hroot
      rwa [Reads, if_pos hroot] at hread
    exact ⟨h.edge id n hid hn slot hslot hwanted, fun source hsource =>
      h.node source.node (hid.source hn hslot hwanted hsource)⟩
  · exact hstray ⟨id, slot⟩ hid ⟨n, hn, hread, hslot⟩

theorem inputValue_eq (h : g.Agrees g' root slots) (hstray : g.AgreesOnStray g' root slots)
    (hid : g.Reaches root slots id) (hn : g.node? id = some n) {slot : SlotId}
    (hread : Reads root slots id n slot) : g'.inputValue id n slot = g.inputValue id n slot := by
  obtain ⟨hsource, hnode⟩ := h.source?_eq hstray hid hn hread
  rw [inputValue, inputValue, feeding?_congr hsource hnode]

theorem nodeBody_eq (h : g.Agrees g' root slots) (hstray : g.AgreesOnStray g' root slots)
    (hid : g.Reaches root slots id) (hne : id ≠ root) (hn : g.node? id = some n)
    (active : KeywordSet) : g'.nodeBody id n active = g.nodeBody id n active := by
  have hcompute : g'.compute id n active = g.compute id n active := by
    unfold compute
    cases hcode : n.code with
    | some code =>
      -- placeholders stand for inputs and for outputs of the node itself
      have hexpand : g'.expand id n code = g.expand id n code :=
        expandChars_congr (fun slot hslot => h.inputValue_eq hstray hid hn (by
          rw [Reads, if_neg hne]
          exact .inl hslot)) code.toList
      simp only [hexpand]
    | none =>
      -- the slot that is passed on need not be an input
      refine List.map_congr_left fun output _ => ?_
      have hpassed : g'.passedOn id n active output = g.passedOn id n active output := by
        unfold passedOn
        cases hslot : (n.switches.bind List.head?).bind (·.selected active) with
        | none => rfl
        | some slot =>
          obtain ⟨s, hs, hselected⟩ := Option.bind_eq_some_iff.1 hslot
          refine h.inputValue_eq hstray hid hn ?_
          rw [Reads, if_neg hne]
          exact .inr ⟨hcode, s, hs, Switch.leadsTo_of_selected hselected⟩
      rw [hpassed]
  rw [nodeBody, nodeBody, hcompute]

theorem resultBody_eq (h : g.Agrees g' root slots) (hstray : g.AgreesOnStray g' root slots)
    (hpart : part ⊆ slots) (names : StageNames) :
    g'.resultBody root part names = g.resultBody root part names := by
  unfold resultBody
  rw [h.root_eq]
  cases hn : g.node? root with
  | none => rfl
  | some n =>
    refine List.map_congr_left fun s hs => ?_
    obtain ⟨slot, hslot, hfound⟩ := List.mem_filterMap.1 hs
    have hnumber : s.id = slot := by simpa using List.find?_some hfound
    rw [h.inputValue_eq hstray reaches_root hn (by
      rw [Reads, if_pos rfl, hnumber]
      exact hpart hslot)]

/-- **The evaluation functions are the same.** -/
theorem evaluationFunction_eq (h : g.Agrees g' root slots) (hstray : g.AgreesOnStray g' root slots)
    (hpart : part ⊆ slots) {ids : List NodeId} (hids : ∀ id ∈ ids, g.Reaches root slots id)
    (active : KeywordSet) (names : StageNames) :
    g'.evaluationFunction root ids part active names =
      g.evaluationFunction root ids part active names := by
  have hnodes : g'.nodesBody root ids active = g.nodesBody root ids active := by
    unfold nodesBody
    refine List.flatMap_congr fun id hid => ?_
    obtain ⟨hmem, hne⟩ := List.mem_filter.1 hid
    rw [h.node id (hids id hmem)]
    cases hn : g.node? id with
    | none => rfl
    | some n => exact h.nodeBody_eq hstray (hids id hmem) (of_decide_eq_true hne) hn active
  rw [evaluationFunction, evaluationFunction, evaluationBody, evaluationBody, hnodes,
    h.resultBody_eq hstray hpart]

theorem rootSlots_eq (h : g.Agrees g' root slots) (part : List SlotId) :
    g'.rootSlots root part = g.rootSlots root part := by
  rw [rootSlots, rootSlots, h.root_eq]

end Agrees

end MaterialGraph

/-! ### Plans -/

variable {g g' : MaterialGraph} {root : NodeId} {slots part : List SlotId}

theorem GroupTable.collect_eq (h : g.Agrees g' root slots) (hpart : part ⊆ slots)
    (t : GroupTable) : t.collect g' root part = t.collect g root part := by
  unfold collect
  rw [h.walk_eq hpart]
  refine bind_congr_of_ok fun ids hwalk => ?_
  obtain ⟨-, rfl⟩ := MaterialGraph.walk_eq_ok_iff.1 hwalk
  rw [h.filterMap_node?_eq fun id hid => MaterialGraph.reaches_of_mem_walkFrom hpart hid]

theorem VariantMap.mem_of_mem_putEntry {β : Type} {v : KeywordSet} {f : Option β → β}
    {l : List (KeywordSet × β)} {e : KeywordSet × β} (h : e ∈ putEntry v f l) :
    e ∈ l ∨ ∃ b, e.2 = f b := by
  induction l with
  | nil =>
    rw [putEntry, List.mem_singleton] at h
    exact .inr ⟨none, by rw [h]⟩
  | cons a l ih =>
    obtain ⟨w, b⟩ := a
    rw [putEntry] at h
    split at h
    · rcases List.mem_cons.1 h with rfl | h
      · exact .inr ⟨some b, rfl⟩
      · exact .inl (List.mem_cons_of_mem _ h)
    · rcases List.mem_cons.1 h with rfl | h
      · exact .inl List.mem_cons_self
      · exact (ih h).imp_left (List.mem_cons_of_mem _)

namespace NodeIndex

theorem extend_eq (h : g.Agrees g' root slots) (hpart : part ⊆ slots) (index : NodeIndex)
    (variants : List KeywordSet) :
    extend g' root part index variants = extend g root part index variants := by
  induction variants generalizing index with
  | nil => rfl
  | cons v rest ih =>
    rw [extend, extend]
    cases index.get? v with
    | some ids => exact ih index
    | none =>
      rw [h.walk_eq hpart]
      exact bind_congr_of_ok fun ids _ => ih _

/-- All nodes of an index are reached. -/
def Reached (index : NodeIndex) (g : MaterialGraph) (root : NodeId) (slots : List SlotId) : Prop :=
  ∀ e ∈ index.entries, ∀ id ∈ e.2, g.Reaches root slots id

theorem reached_of_extend (hpart : part ⊆ slots) {index index' : NodeIndex}
    {variants : List KeywordSet} (hindex : index.Reached g root slots)
    (h : extend g root part index variants = .ok index') : index'.Reached g root slots := by
  induction variants generalizing index with
  | nil =>
    cases h
    exact hindex
  | cons v rest ih =>
    rw [extend] at h
    split at h
    · exact ih hindex h
    · -- a new variant brings the nodes of a walk
      obtain ⟨ids, hwalk, hrest⟩ := bind_eq_ok_iff.1 h
      refine ih (fun e he id hid => ?_) hrest
      rcases VariantMap.mem_of_mem_putEntry he with hold | ⟨_, hnew⟩
      · exact hindex e hold id hid
      · obtain ⟨-, rfl⟩ := MaterialGraph.walk_eq_ok_iff.1 hwalk
        rw [hnew] at hid
        exact MaterialGraph.reaches_of_mem_walkFrom hpart hid

end NodeIndex

theorem RequirementIndex.ofNodes_eq (h : g.Agrees g' root slots) {index : NodeIndex}
    (hindex : index.Reached g root slots) : ofNodes g' index = ofNodes g index := by
  refine congrArg VariantMap.mk (List.map_congr_left fun e he => ?_)
  have hneeds : g'.requirements e.2 = g.requirements e.2 := by
    rw [MaterialGraph.requirements, MaterialGraph.requirements, h.filterMap_node?_eq (hindex e he)]
  exact congrArg (Prod.mk e.1) hneeds

namespace Generator

/-- The generator with another graph. -/
def onGraph (gen : Generator) (g : MaterialGraph) : Generator := { gen with graph := g }

variable {gen : Generator} {pass : Pass} {plan : Plan}

theorem graph_onGraph : (gen.onGraph g').graph = g' := rfl

theorem root_onGraph : (gen.onGraph g').root = gen.root := rfl

theorem settings_onGraph : (gen.onGraph g').settings = gen.settings := rfl

theorem planStage_onGraph (h : gen.graph.Agrees g' gen.root slots) (hpart : part ⊆ slots)
    (stage : Stage) (variants : List KeywordSet) :
    (gen.onGraph g').planStage stage part variants = gen.planStage stage part variants := by
  have hbuild : NodeIndex.build g' gen.root part variants =
      NodeIndex.build gen.graph gen.root part variants :=
    NodeIndex.extend_eq h hpart .empty variants
  simp only [planStage, onGraph, hbuild]
  refine bind_congr_of_ok fun nodes hnodes => ?_
  have hreached : nodes.Reached gen.graph gen.root slots :=
    NodeIndex.reached_of_extend hpart (fun e he => absurd he List.not_mem_nil) hnodes
  rw [RequirementIndex.ofNodes_eq h hreached]

theorem collectGroups_onGraph {vertexSlots pixelSlots : List SlotId}
    (h : gen.graph.Agrees g' gen.root slots) (hvertex : vertexSlots ⊆ slots)
    (hpixel : pixelSlots ⊆ slots) :
    (gen.onGraph g').collectGroups vertexSlots pixelSlots =
      gen.collectGroups vertexSlots pixelSlots := by
  simp only [collectGroups, onGraph, GroupTable.collect_eq h hvertex,
    GroupTable.collect_eq h hpixel]

/-- **The plans are the same.** -/
theorem plan_onGraph {vertexSlots pixelSlots : List SlotId}
    (hvertex : gen.graph.resolveSlots gen.root pass.vertexSlots = .ok vertexSlots)
    (hpixel : gen.graph.resolveSlots gen.root pass.pixelSlots = .ok pixelSlots)
    (h : gen.graph.Agrees g' gen.root (vertexSlots ++ pixelSlots))
    (hstray : gen.graph.AgreesOnStray g' gen.root (vertexSlots ++ pixelSlots)) :
    (gen.onGraph g').plan pass = gen.plan pass := by
  have hvertexSub : vertexSlots ⊆ vertexSlots ++ pixelSlots := List.subset_append_left _ _
  have hpixelSub : pixelSlots ⊆ vertexSlots ++ pixelSlots := List.subset_append_right _ _
  obtain ⟨n, hn, -⟩ := MaterialGraph.resolveSlots_eq_ok_iff.1 hpixel
  -- the vertex stage counts as soon as a listed slot is fed, be it an input or not
  have hactive : (vertexSlots.any fun slot => g'.isConnected ⟨gen.root, slot⟩) =
      vertexSlots.any fun slot => gen.graph.isConnected ⟨gen.root, slot⟩ := by
    rw [Bool.eq_iff_iff, List.any_eq_true, List.any_eq_true]
    refine exists_congr fun slot => and_congr_right fun hslot => ?_
    have hread : MaterialGraph.Reads gen.root (vertexSlots ++ pixelSlots) gen.root n slot := by
      rw [MaterialGraph.Reads, if_pos rfl]
      exact hvertexSub hslot
    rw [MaterialGraph.isConnected, MaterialGraph.isConnected,
      (h.source?_eq hstray MaterialGraph.reaches_root hn hread).1]
  simp only [plan, graph_onGraph, root_onGraph, settings_onGraph, h.resolveSlots_eq]
  refine bind_congr_of_ok fun slots hslots => ?_
  cases hpixel.symm.trans (mapError_eq_ok_iff.1 hslots)
  refine bind_congr_of_ok fun slots hslots => ?_
  cases hvertex.symm.trans (mapError_eq_ok_iff.1 hslots)
  simp only [collectGroups_onGraph h hvertexSub hpixelSub, planStage_onGraph h hvertexSub,
    planStage_onGraph h hpixelSub, hactive]

/-! ### Passes -/

/-- A stage keeps to what is reached: to listed slots, and in a variant to nodes that are
reached. -/
structure StageWithin (gen : Generator) (slots : List SlotId) (p : StagePlan) (v : KeywordSet) :
    Prop where
  listed : p.slots ⊆ slots
  reached : ∀ id ∈ p.nodesOf v, gen.graph.Reaches gen.root slots id

variable {p : StagePlan} {v : KeywordSet}

theorem stageWithin_of_planStage {n : Node} (hroot : gen.graph.node? gen.root = some n)
    (hpart : part ⊆ slots) {stage : Stage} {variants : List KeywordSet}
    (hp : gen.planStage stage part variants = .ok p) (hv : v ∈ variants) :
    gen.StageWithin slots p v := by
  obtain ⟨-, rfl, hnodes⟩ := of_planStage_eq_ok hroot hp
  refine ⟨hpart, fun id hid => ?_⟩
  rw [hnodes v hv] at hid
  exact MaterialGraph.reaches_of_mem_walkFrom hpart hid

theorem stageSeeds_onGraph (h : gen.graph.Agrees g' gen.root slots) :
    (gen.onGraph g').stageSeeds p v = gen.stageSeeds p v := by
  simp only [stageSeeds, MaterialGraph.outputFields, graph_onGraph, root_onGraph, h.rootSlots_eq]

theorem outputsOf_onGraph (h : gen.graph.Agrees g' gen.root slots) :
    (gen.onGraph g').outputsOf p = gen.outputsOf p := by
  simp only [outputsOf, MaterialGraph.outputStruct, graph_onGraph, root_onGraph, h.rootSlots_eq]

theorem evaluationOf_onGraph (h : gen.graph.Agrees g' gen.root slots)
    (hstray : gen.graph.AgreesOnStray g' gen.root slots) (hp : gen.StageWithin slots p v) :
    (gen.onGraph g').evaluationOf p v = gen.evaluationOf p v :=
  h.evaluationFunction_eq hstray hp.listed hp.reached v p.stage.names

/-- **The branches are the same.** -/
theorem addBranch_onGraph (h : gen.graph.Agrees g' gen.root slots)
    (hstray : gen.graph.AgreesOnStray g' gen.root slots)
    (hpixel : gen.StageWithin slots plan.pixel v) (hvertex : gen.StageWithin slots plan.vertex v)
    (d : Draft) : (gen.onGraph g').addBranch pass plan d v = gen.addBranch pass plan d v := by
  have hnodes : ∀ p ∈ plan.stages, ∀ id ∈ p.nodesOf v, gen.graph.Reaches gen.root slots id := by
    intro p hp
    rcases Plan.mem_stages_iff.1 hp with rfl | ⟨-, rfl⟩
    · exact hpixel.reached
    · exact hvertex.reached
  have hseeds : (gen.onGraph g').seeds plan v = gen.seeds plan v := by
    simp only [seeds, stageSeeds_onGraph h]
  have hfunctions : (gen.onGraph g').functionsOf plan v = gen.functionsOf plan v := by
    refine List.flatMap_congr fun p hp => ?_
    simp only [MaterialGraph.sharedFunctions, graph_onGraph, h.filterMap_node?_eq (hnodes p hp)]
  have hproperties : (gen.onGraph g').propertiesOf plan v = gen.propertiesOf plan v := by
    have hall : ∀ id ∈ plan.stages.flatMap fun p => p.nodesOf v,
        gen.graph.Reaches gen.root slots id := by
      intro id hid
      obtain ⟨p, hp, hmem⟩ := List.mem_flatMap.1 hid
      exact hnodes p hp id hmem
    simp only [propertiesOf, MaterialGraph.properties, graph_onGraph, h.filterMap_node?_eq hall]
  -- the defines and the input structs are written from the plan and the active fields alone
  have hsections : ∀ active, (gen.onGraph g').sectionsOf pass plan v active =
      gen.sectionsOf pass plan v active := by
    intro active
    simp only [sectionsOf, hproperties, outputsOf_onGraph h, evaluationOf_onGraph h hstray hpixel,
      evaluationOf_onGraph h hstray hvertex]
    rfl
  simp only [addBranch, hseeds, hfunctions, hsections]
  rfl

theorem draft_onGraph (h : gen.graph.Agrees g' gen.root slots)
    (hstray : gen.graph.AgreesOnStray g' gen.root slots)
    (hpixel : ∀ v ∈ plan.variants, gen.StageWithin slots plan.pixel v)
    (hvertex : ∀ v ∈ plan.variants, gen.StageWithin slots plan.vertex v) (seed : NameSet) :
    (gen.onGraph g').draft pass plan seed = gen.draft pass plan seed :=
  List.foldl_ext _ _ _ fun d v hv => addBranch_onGraph h hstray (hpixel v hv) (hvertex v hv) d

/-- **A pass depends only on what its root reaches.**  Let two graphs agree on the nodes that the
root reaches through the slots of both stages and on the edges into their inputs; and let either all
their edges end in inputs, or let them agree on what feeds the slots that are read but are no
inputs.  Then they give the same pass: the same source, variants, active fields and events, or the
same error. -/
theorem generate_onGraph (gen : Generator) (g' : MaterialGraph) (pass : Pass) (seed : NameSet)
    {vertexSlots pixelSlots : List SlotId}
    (hvertex : gen.graph.resolveSlots gen.root pass.vertexSlots = .ok vertexSlots)
    (hpixel : gen.graph.resolveSlots gen.root pass.pixelSlots = .ok pixelSlots)
    (h : gen.graph.Agrees g' gen.root (vertexSlots ++ pixelSlots))
    (hedges : gen.graph.EndsInInputs ∧ g'.EndsInInputs ∨
      gen.graph.AgreesOnStray g' gen.root (vertexSlots ++ pixelSlots)) :
    (gen.onGraph g').generate pass seed = gen.generate pass seed := by
  have hstray : gen.graph.AgreesOnStray g' gen.root (vertexSlots ++ pixelSlots) := by
    rcases hedges with ⟨hg, hg'⟩ | hstray
    · exact MaterialGraph.agreesOnStray_of_endsInInputs hg hg' h
    · exact hstray
  have hplan : (gen.onGraph g').plan pass = gen.plan pass := plan_onGraph hvertex hpixel h hstray
  have hevents : ∀ result,
      (gen.onGraph g').planEvents pass result = gen.planEvents pass result := by
    intro result
    simp only [planEvents, slotEvents, graph_onGraph, root_onGraph, h.root_eq]
  simp only [generate, hplan, hevents]
  cases hok : gen.plan pass with
  | error e => rfl
  | ok plan =>
    obtain ⟨n, hroot, -⟩ := MaterialGraph.resolveSlots_eq_ok_iff.1 hpixel
    obtain ⟨_, _, hpixel', hvertex', hp, hv⟩ := of_plan_eq_ok hok
    cases hpixel.symm.trans hpixel'
    cases hvertex.symm.trans hvertex'
    have hdraft : (gen.onGraph g').draft pass plan seed = gen.draft pass plan seed :=
      draft_onGraph h hstray
        (fun v => stageWithin_of_planStage hroot (List.subset_append_right _ _) hp)
        (fun v => stageWithin_of_planStage hroot (List.subset_append_left _ _) hv) seed
    -- the template does not see the graph
    simp only [hdraft]
    rfl

/-- The graph of `stone` with one more node, which feeds the offset of the root. -/
def overlaidStone : MaterialGraph :=
  .build (MaterialGraph.stoneSteps ++ [.add { Node.tint with name := "Moss" },
    .connect ⟨⟨5, 1⟩, 1⟩ ⟨⟨4, 1⟩, 1⟩])

theorem agrees_overlaidStone : MaterialGraph.stone.Agrees overlaidStone ⟨4, 1⟩ [0] := by
  have hwalk : MaterialGraph.stone.walkFrom ⟨4, 1⟩ ⟨some [0], none⟩ [] =
      [⟨1, 3⟩, ⟨2, 1⟩, ⟨3, 1⟩, ⟨4, 1⟩] := by
    cbv
  constructor
  · intro id hid
    rw [← MaterialGraph.mem_walkFrom_iff_reaches, hwalk] at hid
    simp only [List.mem_cons, List.not_mem_nil, or_false] at hid
    rcases hid with rfl | rfl | rfl | rfl <;> rfl
  · intro id n _ _ slot _ hwanted
    -- the edge into the offset is the only one that differs
    have hwiring : overlaidStone.wiring =
        MaterialGraph.stone.wiring.insert ⟨⟨⟨4, 1⟩, 1⟩, ⟨⟨5, 1⟩, 1⟩⟩ := rfl
    rw [MaterialGraph.source?, MaterialGraph.source?, hwiring, Wiring.source?_insert_of_ne]
    rintro ⟨⟩
    exact absurd (hwanted rfl) (by decide)

/-- What feeds the offset makes no difference to a pass of `stone` that writes the color only. -/
theorem generate_onGraph_stone :
    stone.graph.resolveSlots stone.root (Pass.forward true [0] []).vertexSlots = .ok [] ∧
    stone.graph.resolveSlots stone.root (Pass.forward true [0] []).pixelSlots = .ok [0] ∧
    stone.graph.Agrees overlaidStone stone.root ([] ++ [0]) ∧
    (stone.graph.EndsInInputs ∧ overlaidStone.EndsInInputs) ∧
    overlaidStone.source? ⟨stone.root, 1⟩ ≠ stone.graph.source? ⟨stone.root, 1⟩ ∧
    (stone.onGraph overlaidStone).generate (.forward true [0] []) ∅ =
      stone.generate (.forward true [0] []) ∅ := by
  have hedges : stone.graph.EndsInInputs ∧ overlaidStone.EndsInInputs :=
    ⟨(MaterialGraph.wired_build _).target, (MaterialGraph.wired_build _).target⟩
  exact ⟨rfl, rfl, agrees_overlaidStone, hedges, by decide,
    generate_onGraph stone overlaidStone _ ∅ rfl rfl agrees_overlaidStone (.inl hedges)⟩

end Generator

/-! ### An edge that is left

A template that writes the graph of a pass and nothing else makes the source of a pass the code of
its graph (`Generator.source_generate_plain`); so two passes differ if their graphs are written
differently. -/

/-- The template that writes the graph of a pass. -/
def plainTemplate : String := "\x7b\x7b pass.splice('Graph') \x7d\x7d"

/-- The statements of this template. -/
def plainBody : List Template.Statement :=
  [.print 1 (.callMethod (.name 1 "pass") "splice" [(.inOrder, .literal 1 (.string "Graph"))])]

/-- A store that has this template only. -/
def plainStore : Template.Store := .memory [("plain", plainTemplate)] []

theorem parse_plainTemplate : Template.parse plainTemplate = .ok plainBody := by
  have htokens : (Template.lex plainTemplate).tokens =
      [⟨.printStart, 1⟩, ⟨.word "pass", 1⟩, ⟨.sign .dot, 1⟩, ⟨.word "splice", 1⟩,
        ⟨.sign .parenOpen, 1⟩, ⟨.string "Graph" false, 1⟩, ⟨.sign .parenClose, 1⟩,
        ⟨.printEnd, 1⟩] := by
    decide +kernel
  have hfault : (Template.lex plainTemplate).fault = none := by
    decide +kernel
  rw [Template.parse, htokens, hfault]
  cbv

theorem output_plainBody (pass a b graph : String) (rest structs : List (String × String))
    (active : NameSet) :
    (Template.render ⟨pass, ("InstancingOptions", a) :: ("Keywords", b) :: ("Graph", graph) :: rest,
      structs, active⟩ plainStore "plain" plainBody).toOption.map (·.output) = some graph := by
  rfl

theorem text_splice_plain (pass a b graph : String) (rest structs : List (String × String))
    (active : NameSet) :
    (Template.splice plainStore ⟨pass, ("InstancingOptions", a) :: ("Keywords", b) ::
      ("Graph", graph) :: rest, structs, active⟩ "plain").toOption.map (·.text) = some graph := by
  have hpath : Template.Path.normalize "plain" = some "plain" := by decide +kernel
  have hstore : plainStore "plain" = .ok (some plainTemplate) := rfl
  have houtput := output_plainBody pass a b graph rest structs active
  simp only [Template.splice, hpath, hstore, parse_plainTemplate]
  generalize Template.render _ plainStore "plain" plainBody = rendered at houtput ⊢
  cases rendered with
  | error e => cases houtput
  | ok p => exact houtput

namespace Generator

/-- The code of the graph of a pass, as text. -/
def graphText (gen : Generator) (pass : Pass) (plan : Plan) (seed : NameSet) : String :=
  let d := gen.draft pass plan seed
  (graphCode plan (Sections.assemble plan.vocabulary d.branches) d.functions).text

theorem source_generate_plain {gen : Generator} {pass : Pass} {plan : Plan}
    (hplan : gen.plan pass = .ok plan) (hstore : gen.store = plainStore)
    (htemplate : pass.template = "plain") (hheader : gen.settings.headerComment = false)
    (seed : NameSet) :
    (gen.generate pass seed).result.toOption.map (·.source) =
      some (gen.graphText pass plan seed) := by
  have hspliced : (Template.splice gen.store (gen.context pass plan (gen.draft pass plan seed))
      pass.template).toOption.map (·.text) = some (gen.graphText pass plan seed) := by
    rw [hstore, htemplate]
    exact text_splice_plain ..
  simp only [generate, hplan, finish, hheader, Bool.false_eq_true, if_false, String.empty_append]
  generalize Template.splice gen.store _ pass.template = spliced at hspliced ⊢
  cases spliced with
  | error e => cases hspliced
  | ok t => exact hspliced

end Generator

/-- A selector that has lost its inputs, though its switch still leads to one. -/
def Node.bare : Node :=
  { Node.selector "Pick" [⟨"_", 0⟩] .none with
    table := .ofList [⟨2, "Out", .output, .float3, none⟩] }

/-- A tint of some name, and a selector that was fed by it and has lost its inputs since. -/
def MaterialGraph.frayed (name : String) : MaterialGraph :=
  ((build [.add .tint, .add (.selector "Pick" [⟨"_", 0⟩] .none), .add .surface,
    .connect ⟨⟨1, 1⟩, 1⟩ ⟨⟨2, 1⟩, 0⟩, .connect ⟨⟨2, 1⟩, 2⟩ ⟨⟨3, 1⟩, 0⟩]).replaceNode
      ⟨2, 1⟩ .bare).replaceNode ⟨1, 1⟩ { Node.tint with name := name }

namespace Generator

/-- The generator of a frayed graph, without any struct. -/
def frayed (name : String) : Generator :=
  ⟨.frayed name, ⟨3, 1⟩, ⟨[], []⟩, { headerComment := false }, {}, plainStore⟩

/-- A pass that writes the color of the root. -/
def frayedPass : Pass := { Pass.ofTemplate "Plain" "plain" with pixelSlots := [0] }

/-- The plan of a pass of the frayed graphs, in which the tint does not occur. -/
def frayedPlan : Plan where
  groups := GroupTable.empty.insert .allDefault
  found := ⟨[∅], by decide⟩
  pixel := ⟨.pixel, [0], ⟨[(∅, [⟨2, 1⟩, ⟨3, 1⟩])]⟩, ⟨[(∅, .none)]⟩⟩
  vertex := ⟨.vertex, [], ⟨[(∅, [⟨3, 1⟩])]⟩, ⟨[(∅, .none)]⟩⟩
  requirements := ⟨[(∅, .none)]⟩
  vertexActive := false

theorem plan_frayed (name : String) : (frayed name).plan frayedPass = .ok frayedPlan := by
  have hgroups : (frayed name).collectGroups [] [0] = .ok frayedPlan.groups := by
    cbv
  have hfound : frayedPlan.groups.enumerate 256 = .ok frayedPlan.found := by
    cbv
  have hpixel : (frayed name).planStage .pixel [0] [∅] = .ok frayedPlan.pixel := by
    have hwalk : (frayed name).graph.walk (frayed name).root ⟨some [0], some ∅⟩ =
        .ok [⟨2, 1⟩, ⟨3, 1⟩] := by
      cbv
    rw [planStage, NodeIndex.build, NodeIndex.extend_cons rfl hwalk]
    rfl
  have hvertex : (frayed name).planStage .vertex [] [∅] = .ok frayedPlan.vertex := by
    have hwalk : (frayed name).graph.walk (frayed name).root ⟨some [], some ∅⟩ = .ok [⟨3, 1⟩] := by
      cbv
    rw [planStage, NodeIndex.build, NodeIndex.extend_cons rfl hwalk]
    rfl
  exact plan_eq_ok rfl rfl hgroups hfound hpixel hvertex

theorem graphText_frayed : (frayed "Wood").graphText frayedPass frayedPlan ∅ ≠
    (frayed "Tint").graphText frayedPass frayedPlan ∅ := by
  decide +kernel

/-- The tint is not reached, so its name does not matter to the agreement. -/
theorem agrees_frayed (name name' : String) :
    (MaterialGraph.frayed name).Agrees (.frayed name') ⟨3, 1⟩ [0] := by
  have hwalk : (MaterialGraph.frayed name).walkFrom ⟨3, 1⟩ ⟨some [0], none⟩ [] =
      [⟨2, 1⟩, ⟨3, 1⟩] := by
    cbv
  refine ⟨fun id hid => ?_, fun id n _ _ slot _ _ => rfl⟩
  rw [← MaterialGraph.mem_walkFrom_iff_reaches, hwalk] at hid
  rcases List.mem_pair.1 hid with rfl | rfl <;> cbv

/-- **A node that is not reached can be named in the code.**  The two graphs have the same edges and
differ only in the name of the tint, which the root does not reach; but the selector still passes on
what its switch leads to, so that the passes differ. -/
theorem generate_frayed :
    (frayed "Tint").graph.resolveSlots (frayed "Tint").root frayedPass.vertexSlots = .ok [] ∧
    (frayed "Tint").graph.resolveSlots (frayed "Tint").root frayedPass.pixelSlots = .ok [0] ∧
    (frayed "Tint").graph.Agrees (.frayed "Wood") (frayed "Tint").root ([] ++ [0]) ∧
    (((frayed "Tint").onGraph (.frayed "Wood")).generate frayedPass ∅).result ≠
      ((frayed "Tint").generate frayedPass ∅).result := by
  refine ⟨rfl, rfl, agrees_frayed "Tint" "Wood", fun heq => ?_⟩
  have hsources := congrArg (fun r => r.toOption.map GeneratedPass.source) heq
  have hwood := source_generate_plain (plan_frayed "Wood") rfl rfl rfl ∅
  have htint := source_generate_plain (plan_frayed "Tint") rfl rfl rfl ∅
  exact graphText_frayed (Option.some.inj (hwood.symm.trans (hsources.trans htint)))

end Generator

end PassForge
