import PassForge.Generator.Plan
import PassForge.Proofs.GraphStore
import PassForge.Schema.Standard
import PassForge.Template.Library

/-!
# When planning succeeds

Planning looks up the root, enumerates the variants and walks the graph once for every stage and
variant.  With a root, only the number of variants can make it fail (`exists_plan`), and the nodes
planned for a variant are those of the walk under its keywords (`exists_planStage`).

`stone` is a small material with three keywords in two groups, one of them in both.
-/

namespace PassForge

/-! ### Indices -/

namespace VariantMap

variable {β : Type} {v w : KeywordSet}

theorem lookup_cons {u : KeywordSet} {b : β} {l : List (KeywordSet × β)} :
    ((u, b) :: l).lookup w = if w = u then some b else l.lookup w := by
  rw [List.lookup_cons]
  by_cases h : w = u
  · simp [h]
  · have hne : (w == u) = false := by simpa using h
    simp [h, hne]

theorem lookup_putEntry (f : Option β → β) (l : List (KeywordSet × β)) :
    (putEntry v f l).lookup w = if w = v then some (f (l.lookup v)) else l.lookup w := by
  induction l with
  | nil => rw [putEntry, lookup_cons, List.lookup_nil, List.lookup_nil]
  | cons e l ih =>
    obtain ⟨u, b⟩ := e
    by_cases huv : u = v
    · rw [putEntry, if_pos huv, lookup_cons, lookup_cons, lookup_cons, huv, if_pos rfl]
      split <;> rfl
    · have hvu : ¬ v = u := fun h => huv h.symm
      rw [putEntry, if_neg huv, lookup_cons, lookup_cons, lookup_cons, ih, if_neg hvu]
      by_cases hwu : w = u
      · rw [hwu, if_pos rfl, if_pos rfl, if_neg huv]
      · rw [if_neg hwu, if_neg hwu]

theorem get?_insert (m : VariantMap β) (b : β) :
    (m.insert v b).get? w = if w = v then some b else m.get? w :=
  lookup_putEntry _ _

theorem get?_map {γ : Type} (f : β → γ) (m : VariantMap β) :
    (m.map f).get? v = (m.get? v).map f := by
  obtain ⟨entries⟩ := m
  induction entries with
  | nil => rfl
  | cons e entries ih =>
    obtain ⟨w, b⟩ := e
    have hrest : (entries.map fun e => (e.1, f e.2)).lookup v = (entries.lookup v).map f := ih
    simp only [map, get?, List.map_cons, lookup_cons]
    split
    · rfl
    · exact hrest

end VariantMap

theorem RequirementIndex.get_ofNodes (g : MaterialGraph) (index : NodeIndex) (v : KeywordSet) :
    (ofNodes g index).get v = g.requirements ((index.get? v).getD []) := by
  rw [get, ofNodes, VariantMap.get?_map]
  cases index.get? v <;> rfl

namespace NodeIndex

variable {g : MaterialGraph} {root : NodeId} {n : Node} {slots : List SlotId}

/-- A variant that is new is added with the nodes of its walk. -/
theorem extend_cons {index : NodeIndex} {v : KeywordSet} {ids : List NodeId}
    (hnew : index.get? v = none) (hwalk : g.walk root ⟨some slots, some v⟩ = .ok ids)
    (variants : List KeywordSet) : extend g root slots index (v :: variants) =
      extend g root slots (VariantMap.insert index v ids) variants := by
  rw [extend, hnew, hwalk]
  rfl

theorem exists_extend (hroot : g.node? root = some n) (variants : List KeywordSet)
    (index : NodeIndex) (hindex : ∀ v ids, index.get? v = some ids →
      ids = g.walkFrom root ⟨some slots, some v⟩ []) :
    ∃ index', extend g root slots index variants = .ok index' ∧ ∀ v, index'.get? v =
      if v ∈ variants then some (g.walkFrom root ⟨some slots, some v⟩ []) else index.get? v := by
  induction variants generalizing index with
  | nil => exact ⟨index, rfl, fun v => by simp⟩
  | cons w rest ih =>
    cases hw : index.get? w with
    | some ids =>
      obtain ⟨index', hext, hget⟩ := ih index hindex
      refine ⟨index', by rw [extend, hw]; exact hext, fun v => ?_⟩
      rw [hget v]
      by_cases hv : v = w
      · subst hv
        simp [hw, hindex v ids hw]
      · simp [hv]
    | none =>
      have hwalk : g.walk root ⟨some slots, some w⟩ =
          .ok (g.walkFrom root ⟨some slots, some w⟩ []) :=
        MaterialGraph.walk_eq_ok_iff.2 ⟨⟨n, hroot⟩, rfl⟩
      obtain ⟨index', hext, hget⟩ := ih
        (VariantMap.insert index w (g.walkFrom root ⟨some slots, some w⟩ [])) (by
          intro v ids hv
          rw [VariantMap.get?_insert] at hv
          split at hv
          · rename_i heq
            rw [heq]
            exact (Option.some.inj hv).symm
          · exact hindex v ids hv)
      refine ⟨index', by rw [extend_cons hw hwalk, hext], fun v => ?_⟩
      rw [hget v, VariantMap.get?_insert]
      by_cases hv : v = w <;> simp [hv]

end NodeIndex

/-! ### Plans -/

namespace MaterialGraph

variable {g : MaterialGraph} {root : NodeId} {ids slots : List SlotId}

theorem resolveSlots_eq_ok_iff : g.resolveSlots root ids = .ok slots ↔
    ∃ n, g.node? root = some n ∧ n.presentSlots ids = slots := by
  simp only [resolveSlots, bind_eq_ok_iff, pure_eq_ok_iff, node_eq_ok_iff]

end MaterialGraph

theorem Plan.mem_stages_iff {plan : Plan} {p : StagePlan} :
    p ∈ plan.stages ↔ p = plan.pixel ∨ plan.vertexActive = true ∧ p = plan.vertex := by
  unfold stages
  cases plan.vertexActive <;> simp

namespace Generator

variable {gen : Generator} {n : Node}

/-- With a root, a stage can be planned; its nodes are those of the walks under the variants. -/
theorem exists_planStage (hroot : gen.graph.node? gen.root = some n) (stage : Stage)
    (slots : List SlotId) (variants : List KeywordSet) :
    ∃ p, gen.planStage stage slots variants = .ok p ∧ p.stage = stage ∧ p.slots = slots ∧
      ∀ v ∈ variants, p.nodesOf v = gen.graph.walkFrom gen.root ⟨some slots, some v⟩ [] := by
  obtain ⟨index, hbuild, hget⟩ := NodeIndex.exists_extend hroot variants .empty
    fun v ids h => absurd (show some ids = none from h.symm) (Option.some_ne_none ids)
  refine ⟨⟨stage, slots, index, .ofNodes gen.graph index⟩, ?_, rfl, rfl, fun v hv => ?_⟩
  · rw [planStage, NodeIndex.build, hbuild]
    rfl
  · rw [StagePlan.nodesOf, hget v, if_pos hv]
    rfl

theorem of_planStage_eq_ok (hroot : gen.graph.node? gen.root = some n) {stage : Stage}
    {slots : List SlotId} {variants : List KeywordSet} {p : StagePlan}
    (h : gen.planStage stage slots variants = .ok p) : p.stage = stage ∧ p.slots = slots ∧
      ∀ v ∈ variants, p.nodesOf v = gen.graph.walkFrom gen.root ⟨some slots, some v⟩ [] := by
  obtain ⟨p', hp', hspec⟩ := exists_planStage hroot stage slots variants
  rw [h] at hp'
  cases hp'
  exact hspec

theorem requirements_of_planStage {stage : Stage} {slots : List SlotId}
    {variants : List KeywordSet} {p : StagePlan} (h : gen.planStage stage slots variants = .ok p)
    (v : KeywordSet) : p.requirements.get v = gen.graph.requirements (p.nodesOf v) := by
  obtain ⟨nodes, -, hp⟩ := bind_eq_ok_iff.1 h
  cases hp
  exact RequirementIndex.get_ofNodes gen.graph nodes v

theorem plan_eq_ok {pass : Pass} {pixelSlots vertexSlots : List SlotId} {groups : GroupTable}
    {found : VariantSet} {pixel vertex : StagePlan}
    (hpixelSlots : gen.graph.resolveSlots gen.root pass.pixelSlots = .ok pixelSlots)
    (hvertexSlots : gen.graph.resolveSlots gen.root pass.vertexSlots = .ok vertexSlots)
    (hgroups : gen.collectGroups vertexSlots pixelSlots = .ok groups)
    (hfound : groups.enumerate gen.settings.maxVariants = .ok found)
    (hpixel : gen.planStage .pixel pixelSlots found.ordered = .ok pixel)
    (hvertex : gen.planStage .vertex vertexSlots found.ordered = .ok vertex) :
    gen.plan pass = .ok { groups, found, pixel, vertex
                          requirements := pixel.requirements.union vertex.requirements
                          vertexActive := vertexSlots.any fun slot =>
                            gen.graph.isConnected ⟨gen.root, slot⟩ } := by
  simp only [plan, bind_eq_ok_iff, pure_eq_ok_iff, mapError_eq_ok_iff]
  exact ⟨pixelSlots, hpixelSlots, vertexSlots, hvertexSlots, groups, hgroups, found, hfound, pixel,
    hpixel, vertex, hvertex, rfl⟩

/-- With a root, planning succeeds unless there are too many variants. -/
theorem exists_plan (pass : Pass) {pixelSlots vertexSlots : List SlotId} {groups : GroupTable}
    {found : VariantSet}
    (hpixel : gen.graph.resolveSlots gen.root pass.pixelSlots = .ok pixelSlots)
    (hvertex : gen.graph.resolveSlots gen.root pass.vertexSlots = .ok vertexSlots)
    (hgroups : gen.collectGroups vertexSlots pixelSlots = .ok groups)
    (hfound : groups.enumerate gen.settings.maxVariants = .ok found) :
    ∃ plan, gen.plan pass = .ok plan ∧ plan.found = found ∧
      gen.planStage .pixel pixelSlots found.ordered = .ok plan.pixel ∧
      gen.planStage .vertex vertexSlots found.ordered = .ok plan.vertex := by
  obtain ⟨n, hroot, -⟩ := MaterialGraph.resolveSlots_eq_ok_iff.1 hpixel
  obtain ⟨pixel, hp, -⟩ := gen.exists_planStage hroot .pixel pixelSlots found.ordered
  obtain ⟨vertex, hv, -⟩ := gen.exists_planStage hroot .vertex vertexSlots found.ordered
  exact ⟨_, plan_eq_ok hpixel hvertex hgroups hfound hp hv, rfl, hp, hv⟩

/-- A plan comes from the slots of the root that the pass lists, and has both stages over them. -/
theorem of_plan_eq_ok {pass : Pass} {plan : Plan} (h : gen.plan pass = .ok plan) :
    ∃ pixelSlots vertexSlots,
      gen.graph.resolveSlots gen.root pass.pixelSlots = .ok pixelSlots ∧
      gen.graph.resolveSlots gen.root pass.vertexSlots = .ok vertexSlots ∧
      gen.planStage .pixel pixelSlots plan.variants = .ok plan.pixel ∧
      gen.planStage .vertex vertexSlots plan.variants = .ok plan.vertex := by
  simp only [Generator.plan, bind_eq_ok_iff, pure_eq_ok_iff, mapError_eq_ok_iff] at h
  obtain ⟨pixelSlots, hpixel, vertexSlots, hvertex, _, -, _, -, _, hp, _, hv, rfl⟩ := h
  exact ⟨pixelSlots, vertexSlots, hpixel, hvertex, hp, hv⟩

theorem requirements_of_plan {pass : Pass} {plan : Plan} {p : StagePlan}
    (hplan : gen.plan pass = .ok plan) (hp : p ∈ plan.stages) (v : KeywordSet) :
    p.requirements.get v = gen.graph.requirements (p.nodesOf v) := by
  obtain ⟨_, _, -, -, hpixel, hvertex⟩ := of_plan_eq_ok hplan
  rcases Plan.mem_stages_iff.1 hp with rfl | ⟨-, rfl⟩
  · exact requirements_of_planStage hpixel v
  · exact requirements_of_planStage hvertex v

/-! ### The variants of a small material -/

/-- The material `stone` with the standard fields. -/
def stone : Generator := ⟨.stone, ⟨4, 1⟩, Standard.registry, {}, {}, .library⟩

/-- The keyword groups of `stone`. -/
def stoneGroups : GroupTable :=
  GroupTable.empty.insertAll [.ofOptions ["_", "WET"], .ofOptions ["WET", "SNOW", "ICE"]]

/-- The variants of `stone`, all with keywords. -/
def stoneVariants : VariantSet where
  variants := [.ofList ["WET"], .ofList ["SNOW"], .ofList ["ICE"], .ofList ["SNOW", "WET"],
    .ofList ["ICE", "WET"]]
  distinct := by decide

theorem collectGroups_stone : stone.collectGroups [1] [0] = .ok stoneGroups := by
  cbv

theorem enumerate_stoneGroups : stoneGroups.enumerate 256 = .ok stoneVariants := by
  cbv

/-- In a pass of `stone` the branch of snow comes second, and its color needs all nodes. -/
theorem exists_plan_stone : ∃ plan, stone.plan (.forward true [0] [1]) = .ok plan ∧
    plan.variants[1]? = some (.ofList ["SNOW"]) ∧ plan.pixel.stage = .pixel ∧
    plan.pixel.nodesOf (.ofList ["SNOW"]) = [⟨1, 3⟩, ⟨2, 1⟩, ⟨3, 1⟩, ⟨4, 1⟩] := by
  obtain ⟨plan, hplan, hfound, hpixel, -⟩ := stone.exists_plan (.forward true [0] [1]) rfl rfl
    collectGroups_stone enumerate_stoneGroups
  obtain ⟨hstage, -, hnodes⟩ := of_planStage_eq_ok rfl hpixel
  refine ⟨plan, hplan, ?_, hstage, ?_⟩
  · rw [Plan.variants, hfound]
    decide
  · rw [hnodes _ (by decide)]
    exact (MaterialGraph.walk_eq_ok_iff.1 MaterialGraph.walk_stone_snow).2.symm

end Generator

end PassForge
