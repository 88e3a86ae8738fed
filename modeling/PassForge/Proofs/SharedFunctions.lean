import PassForge.Generator.Basic
import PassForge.Proofs.Plan

/-!
# Shared functions come from their first declaration

The functions of a pass are gathered while its branches are written: variant by variant, in a
variant the pixel stage before the vertex stage, in a stage node by node, and in a node as it
declares them.  A declaration has a *place*, the list of these four numbers, and the order in which
declarations are met is the lexicographic order of their places
(`Generator.pairwise_declarationsOf`).

* `FunctionLibrary.exists_firsts`: of declarations met in the order of their places, the library
  keeps those before which none of the same name stands, in this order.
* `Generator.functions_first`: so the functions of a pass are the first declarations of all names
  that nodes of some variant and stage declare.
-/

namespace PassForge

/-! ### Places -/

section Placed

variable {α β : Type}

/-- The items of nested lists with their places: the number of the outer item in front of the place
of the inner one. -/
def placed (l : List α) (f : α → List (List Nat × β)) : List (List Nat × β) :=
  l.zipIdx.flatMap fun x => (f x.1).map fun y => (x.2 :: y.1, y.2)

theorem mem_placed {l : List α} {f : α → List (List Nat × β)} {place : List Nat} {b : β} :
    (place, b) ∈ placed l f ↔
      ∃ i a rest, l[i]? = some a ∧ (rest, b) ∈ f a ∧ place = i :: rest := by
  simp only [placed, List.mem_flatMap, List.mem_map, List.mem_zipIdx_iff_getElem?, Prod.mk.injEq]
  constructor
  · rintro ⟨⟨a, i⟩, ha, ⟨rest, b'⟩, hb, rfl, rfl⟩
    exact ⟨i, a, rest, ha, hb, rfl⟩
  · rintro ⟨i, a, rest, ha, hb, rfl⟩
    exact ⟨(a, i), ha, (rest, b), hb, rfl, rfl⟩

theorem map_snd_placed (l : List α) (f : α → List (List Nat × β)) :
    (placed l f).map Prod.snd = l.flatMap fun a => (f a).map Prod.snd := by
  calc (placed l f).map Prod.snd
      = l.zipIdx.flatMap fun x => (f x.1).map Prod.snd := by
        simp only [placed, List.map_flatMap, List.map_map, Function.comp_def]
    _ = (l.zipIdx.map Prod.fst).flatMap fun a => (f a).map Prod.snd := by rw [List.flatMap_map]
    _ = l.flatMap fun a => (f a).map Prod.snd := by rw [List.zipIdx_map_fst]

/-- Places are met in lexicographic order, if they are within every item. -/
theorem pairwise_placed {l : List α} {f : α → List (List Nat × β)}
    (h : ∀ a ∈ l, (f a).Pairwise fun x y => x.1 < y.1) :
    (placed l f).Pairwise fun x y => x.1 < y.1 := by
  rw [placed, List.pairwise_flatMap]
  constructor
  · rintro ⟨a, i⟩ ha
    rw [List.pairwise_map]
    refine (h a (List.fst_mem_of_mem_zipIdx ha)).imp fun {x y} hxy => ?_
    exact List.cons_lt_cons_iff.2 (.inr ⟨rfl, hxy⟩)
  · have hnumbers : (l.zipIdx.map Prod.snd).Pairwise (· < ·) := by
      rw [List.zipIdx_map_snd]
      exact List.pairwise_lt_range'
    refine (List.pairwise_map.1 hnumbers).imp fun {x y} hxy p hp q hq => ?_
    obtain ⟨p, -, rfl⟩ := List.mem_map.1 hp
    obtain ⟨q, -, rfl⟩ := List.mem_map.1 hq
    exact List.cons_lt_cons_iff.2 (.inl hxy)

end Placed

/-! ### Libraries -/

namespace FunctionLibrary

theorem functions_insert (library : FunctionLibrary) (f : NodeFunction) :
    (library.insert f).functions =
      if f.name ∈ library.names then library.functions else library.functions ++ [f] := by
  unfold insert
  split <;> rfl

theorem insertAll_append (library : FunctionLibrary) (fs fs' : List NodeFunction) :
    library.insertAll (fs ++ fs') = (library.insertAll fs).insertAll fs' :=
  List.foldl_append

/-- **A library keeps the first function of every name**, in the order in which they come. -/
theorem exists_firsts {declared : List (List Nat × NodeFunction)}
    (h : declared.Pairwise fun x y => x.1 < y.1) :
    ∃ kept : List (List Nat × NodeFunction), kept.Sublist declared ∧
      (empty.insertAll (declared.map Prod.snd)).functions = kept.map Prod.snd ∧
      (∀ x ∈ kept, ∀ y ∈ declared, y.2.name = x.2.name → ¬ y.1 < x.1) ∧
      ∀ y ∈ declared, ∃ x ∈ kept, x.2.name = y.2.name := by
  -- by what one more declaration adds
  induction declared using List.reverseRecOn with
  | nil => exact ⟨[], .slnil, rfl, by simp, by simp⟩
  | append_singleton declared z ih =>
    obtain ⟨hdeclared, -, hlast⟩ := List.pairwise_append.1 h
    obtain ⟨kept, hsub, hkept, hfirst, hall⟩ := ih hdeclared
    have hnames : z.2.name ∈ (empty.insertAll (declared.map Prod.snd)).names ↔
        ∃ x ∈ kept, x.2.name = z.2.name := by
      simp [names, hkept]
    have hinsert : (empty.insertAll ((declared ++ [z]).map Prod.snd)).functions =
        if ∃ x ∈ kept, x.2.name = z.2.name then kept.map Prod.snd
        else kept.map Prod.snd ++ [z.2] := by
      rw [List.map_append, insertAll_append, ← hkept]
      simp only [← hnames]
      exact functions_insert _ _
    -- none of those kept stands behind the new one
    have hbefore : ∀ x ∈ kept, ∀ y ∈ declared ++ [z], y.2.name = x.2.name → ¬ y.1 < x.1 := by
      intro x hx y hy hyx
      rcases List.mem_append.1 hy with hy | hy
      · exact hfirst x hx y hy hyx
      · exact List.lt_asymm (hlast x (hsub.subset hx) y hy)
    by_cases hknown : ∃ x ∈ kept, x.2.name = z.2.name
    · rw [if_pos hknown] at hinsert
      refine ⟨kept, hsub.trans (List.sublist_append_left _ _), hinsert, hbefore, fun y hy => ?_⟩
      rcases List.mem_append.1 hy with hy | hy
      · exact hall y hy
      · exact List.mem_singleton.1 hy ▸ hknown
    · rw [if_neg hknown] at hinsert
      have hmore : (kept ++ [z]).map Prod.snd = kept.map Prod.snd ++ [z.2] := List.map_append
      refine ⟨kept ++ [z], hsub.append_right _, hinsert.trans hmore.symm,
        fun x hx y hy hyx => ?_, fun y hy => ?_⟩
      · rcases List.mem_append.1 hx with hx | hx
        · exact hbefore x hx y hy hyx
        · rw [List.mem_singleton.1 hx] at hyx ⊢
          rcases List.mem_append.1 hy with hy | hy
          · obtain ⟨x, hx, hxy⟩ := hall y hy
            exact absurd ⟨x, hx, hxy.trans hyx⟩ hknown
          · rw [List.mem_singleton.1 hy]
            exact List.lt_irrefl _
      · rcases List.mem_append.1 hy with hy | hy
        · obtain ⟨x, hx, hxy⟩ := hall y hy
          exact ⟨x, List.mem_append_left _ hx, hxy⟩
        · exact ⟨z, List.mem_append_right _ List.mem_cons_self, by rw [List.mem_singleton.1 hy]⟩

end FunctionLibrary

/-! ### The functions of a pass -/

namespace Generator

variable {gen : Generator} {pass : Pass} {plan : Plan}

theorem functions_foldl_addBranch (variants : List KeywordSet) (d : Draft) :
    (variants.foldl (gen.addBranch pass plan) d).functions =
      d.functions.insertAll (variants.flatMap (gen.functionsOf plan)) := by
  induction variants generalizing d with
  | nil => rfl
  | cons v variants ih =>
    rw [List.foldl_cons, ih, List.flatMap_cons, FunctionLibrary.insertAll_append]
    rfl

/-- The functions that a node declares. -/
def functionsAt (gen : Generator) (id : NodeId) : List NodeFunction :=
  ((gen.graph.node? id).map Node.functions).getD []

/-- The functions declared in a pass, as they are met, with their places. -/
def declarationsOf (gen : Generator) (plan : Plan) : List (List Nat × NodeFunction) :=
  placed plan.variants fun v => placed plan.stages fun p => placed (p.nodesOf v) fun id =>
    placed (gen.functionsAt id) fun f => [([], f)]

theorem pairwise_declarationsOf (gen : Generator) (plan : Plan) :
    (gen.declarationsOf plan).Pairwise fun x y => x.1 < y.1 := by
  refine pairwise_placed fun v _ => pairwise_placed fun p _ => pairwise_placed fun id _ => ?_
  exact pairwise_placed fun f _ => List.pairwise_singleton _ _

theorem sharedFunctions_eq (gen : Generator) (ids : List NodeId) :
    gen.graph.sharedFunctions ids = ids.flatMap gen.functionsAt := by
  unfold MaterialGraph.sharedFunctions
  induction ids with
  | nil => rfl
  | cons id ids ih =>
    rw [List.flatMap_cons, ← ih, functionsAt]
    cases hn : gen.graph.node? id with
    | none => rw [List.filterMap_cons_none hn, Option.map_none, Option.getD_none, List.nil_append]
    | some n =>
      rw [List.filterMap_cons_some hn, List.flatMap_cons, Option.map_some, Option.getD_some]

theorem map_snd_declarationsOf (gen : Generator) (plan : Plan) :
    (gen.declarationsOf plan).map Prod.snd = plan.variants.flatMap (gen.functionsOf plan) := by
  simp only [declarationsOf, map_snd_placed, List.map_cons, List.map_nil, List.flatMap_singleton']
  refine List.flatMap_congr fun v _ => List.flatMap_congr fun p _ => ?_
  exact (gen.sharedFunctions_eq (p.nodesOf v)).symm

/-- A function is declared at a place in a pass: by a node of the walk of a stage under a variant.
The pixel stage comes before the vertex stage, and the vertex stage counts only if it is active. -/
def DeclaredAt (gen : Generator) (plan : Plan) (place : List Nat) (f : NodeFunction) : Prop :=
  ∃ i v s p ids k id n j, place = [i, s, k, j] ∧ plan.variants[i]? = some v ∧
    (s = 0 ∧ p = plan.pixel ∨ s = 1 ∧ plan.vertexActive = true ∧ p = plan.vertex) ∧
    gen.graph.walk gen.root ⟨some p.slots, some v⟩ = .ok ids ∧ ids[k]? = some id ∧
    gen.graph.node? id = some n ∧ n.functions[j]? = some f

/-- A function is declared at a place, and none of its name at a place before. -/
def FirstDeclaredAt (gen : Generator) (plan : Plan) (place : List Nat) (f : NodeFunction) : Prop :=
  gen.DeclaredAt plan place f ∧
    ∀ place' f', gen.DeclaredAt plan place' f' → f'.name = f.name → ¬ place' < place

theorem getElem?_stages_eq_some_iff {s : Nat} {p : StagePlan} : plan.stages[s]? = some p ↔
    s = 0 ∧ p = plan.pixel ∨ s = 1 ∧ plan.vertexActive = true ∧ p = plan.vertex := by
  unfold Plan.stages
  rcases s with _ | _ | s <;> cases plan.vertexActive <;> simp [eq_comm]

theorem walk_eq_ok_iff_of_plan (hplan : gen.plan pass = .ok plan) {p : StagePlan}
    (hp : p ∈ plan.stages) {v : KeywordSet} (hv : v ∈ plan.variants) {ids : List NodeId} :
    gen.graph.walk gen.root ⟨some p.slots, some v⟩ = .ok ids ↔ ids = p.nodesOf v := by
  obtain ⟨pixelSlots, vertexSlots, hslots, -, hpixel, hvertex⟩ := of_plan_eq_ok hplan
  obtain ⟨n, hroot, -⟩ := MaterialGraph.resolveSlots_eq_ok_iff.1 hslots
  have hnodes : p.nodesOf v = gen.graph.walkFrom gen.root ⟨some p.slots, some v⟩ [] := by
    rcases Plan.mem_stages_iff.1 hp with rfl | ⟨-, rfl⟩
    · obtain ⟨-, hslots, hnodes⟩ := of_planStage_eq_ok hroot hpixel
      rw [hnodes v hv, hslots]
    · obtain ⟨-, hslots, hnodes⟩ := of_planStage_eq_ok hroot hvertex
      rw [hnodes v hv, hslots]
  rw [MaterialGraph.walk_eq_ok_iff, hnodes]
  exact and_iff_right ⟨n, hroot⟩

theorem getElem?_functionsAt {id : NodeId} {j : Nat} {f : NodeFunction} :
    (gen.functionsAt id)[j]? = some f ↔
      ∃ n, gen.graph.node? id = some n ∧ n.functions[j]? = some f := by
  unfold functionsAt
  cases gen.graph.node? id <;> simp

theorem mem_declarationsOf_iff (hplan : gen.plan pass = .ok plan) {place : List Nat}
    {f : NodeFunction} : (place, f) ∈ gen.declarationsOf plan ↔ gen.DeclaredAt plan place f := by
  simp only [declarationsOf, mem_placed, List.mem_singleton, Prod.mk.injEq, getElem?_functionsAt]
  constructor
  · rintro ⟨i, v, _, hv, ⟨s, p, _, hp, ⟨k, id, _, hid, ⟨j, _, _, ⟨n, hn, hf⟩, ⟨rfl, rfl⟩, rfl⟩,
      rfl⟩, rfl⟩, rfl⟩
    have hwalk := (walk_eq_ok_iff_of_plan hplan (List.mem_of_getElem? hp)
      (List.mem_of_getElem? hv)).2 rfl
    exact ⟨i, v, s, p, _, k, id, n, j, rfl, hv, getElem?_stages_eq_some_iff.1 hp, hwalk, hid, hn,
      hf⟩
  · rintro ⟨i, v, s, p, ids, k, id, n, j, rfl, hv, hp, hwalk, hid, hn, hf⟩
    have hp := getElem?_stages_eq_some_iff.2 hp
    obtain rfl := (walk_eq_ok_iff_of_plan hplan (List.mem_of_getElem? hp)
      (List.mem_of_getElem? hv)).1 hwalk
    exact ⟨i, v, _, hv, ⟨s, p, _, hp, ⟨k, id, _, hid, ⟨j, f, _, ⟨n, hn, hf⟩, ⟨rfl, rfl⟩, rfl⟩, rfl⟩,
      rfl⟩, rfl⟩

theorem slots_of_plan (hplan : gen.plan pass = .ok plan) :
    gen.graph.resolveSlots gen.root pass.pixelSlots = .ok plan.pixel.slots ∧
    gen.graph.resolveSlots gen.root pass.vertexSlots = .ok plan.vertex.slots ∧
    (plan.vertexActive = true ↔
      ∃ slot ∈ plan.vertex.slots, (gen.graph.source? ⟨gen.root, slot⟩).isSome = true) := by
  simp only [Generator.plan, bind_eq_ok_iff, pure_eq_ok_iff, mapError_eq_ok_iff] at hplan
  obtain ⟨pixelSlots, hpixel, vertexSlots, hvertex, _, -, _, -, _, hp, _, hv, rfl⟩ := hplan
  obtain ⟨n, hroot, -⟩ := MaterialGraph.resolveSlots_eq_ok_iff.1 hpixel
  obtain ⟨-, hpslots, -⟩ := of_planStage_eq_ok hroot hp
  obtain ⟨-, hvslots, -⟩ := of_planStage_eq_ok hroot hv
  refine ⟨hpslots.symm ▸ hpixel, hvslots.symm ▸ hvertex, ?_⟩
  rw [hvslots]
  exact List.any_eq_true

/-- The functions stand in one place of the code of the graph. -/
theorem exists_graphCode_eq (plan : Plan) (sections : Sections) : ∃ before after : Code,
    ∀ functions, graphCode plan sections functions = before ++ functions.code ++ after :=
  ⟨_, _, fun _ => (List.append_assoc _ _ _).trans (List.append_assoc _ _ _)⟩

/-- **Shared functions come from their first declaration.**  The functions of a pass have the names
of all functions that are declared by some node in a walk of the pixel stage or, if it is active, of
the vertex stage under some variant.  No name is repeated.  They stand in the order in which their
names are first declared, and each is the one of its first declaration.  The code of the graph has
their sources in this order, each with an empty line after it, in one place, and what is around it
does not depend on them. -/
theorem functions_first (hplan : gen.plan pass = .ok plan) (seed : NameSet) :
    (∀ name, name ∈ (gen.draft pass plan seed).functions.names ↔
      ∃ place f, gen.DeclaredAt plan place f ∧ f.name = name) ∧
    (gen.draft pass plan seed).functions.names.Nodup ∧
    (∃ places : List (List Nat), places.Pairwise (· < ·) ∧ List.Forall₂ (gen.FirstDeclaredAt plan)
      places (gen.draft pass plan seed).functions.functions) ∧
    (gen.graph.resolveSlots gen.root pass.pixelSlots = .ok plan.pixel.slots ∧
      gen.graph.resolveSlots gen.root pass.vertexSlots = .ok plan.vertex.slots ∧
      (plan.vertexActive = true ↔
        ∃ slot ∈ plan.vertex.slots, (gen.graph.source? ⟨gen.root, slot⟩).isSome = true)) ∧
    ∃ before after : Code,
      ("Graph", (before ++ ((gen.draft pass plan seed).functions.functions.flatMap fun f =>
        Code.lines f.source ++ Code.line "") ++ after).text) ∈
          gen.fragments pass plan (gen.draft pass plan seed) ∧
      ∀ functions, graphCode plan
        (Sections.assemble plan.vocabulary (gen.draft pass plan seed).branches) functions =
          before ++ functions.code ++ after := by
  have hfunctions : (gen.draft pass plan seed).functions =
      FunctionLibrary.empty.insertAll ((gen.declarationsOf plan).map Prod.snd) := by
    rw [map_snd_declarationsOf]
    exact functions_foldl_addBranch _ _
  obtain ⟨kept, hsub, hkept, hfirst, hall⟩ :=
    FunctionLibrary.exists_firsts (gen.pairwise_declarationsOf plan)
  rw [← hfunctions] at hkept
  obtain ⟨before, after, hcode⟩ := exists_graphCode_eq plan
    (Sections.assemble plan.vocabulary (gen.draft pass plan seed).branches)
  have hdeclared : ∀ x ∈ kept, gen.DeclaredAt plan x.1 x.2 := fun x hx =>
    (mem_declarationsOf_iff hplan).1 (hsub.subset hx)
  refine ⟨fun name => ?_, (gen.draft pass plan seed).functions.distinct,
    ⟨kept.map Prod.fst, ?_, ?_⟩, slots_of_plan hplan, before, after, ?_, hcode⟩
  · simp only [FunctionLibrary.names, hkept, List.map_map, List.mem_map, Function.comp_apply]
    constructor
    · rintro ⟨x, hx, rfl⟩
      exact ⟨x.1, x.2, hdeclared x hx, rfl⟩
    · rintro ⟨place, f, hf, rfl⟩
      exact hall (place, f) ((mem_declarationsOf_iff hplan).2 hf)
  · rw [List.pairwise_map]
    exact (gen.pairwise_declarationsOf plan).sublist hsub
  · rw [hkept, List.forall₂_map_left_iff, List.forall₂_map_right_iff, List.forall₂_same]
    refine fun x hx => ⟨hdeclared x hx, fun place f hf hname => ?_⟩
    exact hfirst x hx (place, f) ((mem_declarationsOf_iff hplan).2 hf) hname
  · have hgraph : ("Graph", (graphCode plan (Sections.assemble plan.vocabulary
        (gen.draft pass plan seed).branches) (gen.draft pass plan seed).functions).text) ∈
          gen.fragments pass plan (gen.draft pass plan seed) := by
      simp [fragments]
    rwa [hcode] at hgraph

/-! ### Two functions of one name -/

/-- Two nodes that declare a function of the same name: one counts in the color without keywords and
in the offset always, the other in the color under `WET`. -/
def woven : Generator where
  graph := .build [
    .add { Node.tint with name := "Grain", functions := [⟨"hash", "// grain"⟩, ⟨"bump", ""⟩] },
    .add { Node.tint with name := "Weave", functions := [⟨"hash", "// weave"⟩] },
    .add (.selector "Layer" [⟨"_", 0⟩, ⟨"WET", 1⟩] .none), .add .surface,
    .connect ⟨⟨1, 1⟩, 1⟩ ⟨⟨3, 1⟩, 0⟩, .connect ⟨⟨2, 1⟩, 1⟩ ⟨⟨3, 1⟩, 1⟩,
    .connect ⟨⟨3, 1⟩, 2⟩ ⟨⟨4, 1⟩, 0⟩, .connect ⟨⟨1, 1⟩, 1⟩ ⟨⟨4, 1⟩, 1⟩]
  root := ⟨4, 1⟩
  registry := ⟨[], []⟩
  settings := {}
  material := {}
  store := .memory [] []

/-- A pass that writes color and offset. -/
def wovenPass : Pass :=
  { Pass.ofTemplate "Plain" "plain" with pixelSlots := [0], vertexSlots := [1] }

/-- The plan of this pass. -/
def wovenPlan : Plan :=
  let wet : KeywordSet := .ofList ["WET"]
  let needs : Requirements := Node.tint.requirements
  { groups := GroupTable.empty.insert (.ofOptions ["_", "WET"])
    found := ⟨[∅, wet], by decide⟩
    pixel := ⟨.pixel, [0], ⟨[(wet, [⟨2, 1⟩, ⟨3, 1⟩, ⟨4, 1⟩]), (∅, [⟨1, 1⟩, ⟨3, 1⟩, ⟨4, 1⟩])]⟩,
      ⟨[(wet, needs), (∅, needs)]⟩⟩
    vertex := ⟨.vertex, [1], ⟨[(wet, [⟨1, 1⟩, ⟨4, 1⟩]), (∅, [⟨1, 1⟩, ⟨4, 1⟩])]⟩,
      ⟨[(wet, needs), (∅, needs)]⟩⟩
    requirements := ⟨[(wet, needs), (∅, needs)]⟩
    vertexActive := true }

theorem plan_woven : woven.plan wovenPass = .ok wovenPlan := by
  have hgroups : woven.collectGroups [1] [0] = .ok wovenPlan.groups := by
    cbv
  have hfound : wovenPlan.groups.enumerate 256 = .ok wovenPlan.found := by
    cbv
  have hpixel : woven.planStage .pixel [0] [.ofList ["WET"], ∅] = .ok wovenPlan.pixel := by
    have hwet : woven.graph.walk woven.root ⟨some [0], some (.ofList ["WET"])⟩ =
        .ok [⟨2, 1⟩, ⟨3, 1⟩, ⟨4, 1⟩] := by
      cbv
    have hdry : woven.graph.walk woven.root ⟨some [0], some ∅⟩ =
        .ok [⟨1, 1⟩, ⟨3, 1⟩, ⟨4, 1⟩] := by
      cbv
    rw [planStage, NodeIndex.build, NodeIndex.extend_cons rfl hwet, NodeIndex.extend_cons rfl hdry]
    rfl
  have hvertex : woven.planStage .vertex [1] [.ofList ["WET"], ∅] = .ok wovenPlan.vertex := by
    have hwet : woven.graph.walk woven.root ⟨some [1], some (.ofList ["WET"])⟩ =
        .ok [⟨1, 1⟩, ⟨4, 1⟩] := by
      cbv
    have hdry : woven.graph.walk woven.root ⟨some [1], some ∅⟩ = .ok [⟨1, 1⟩, ⟨4, 1⟩] := by
      cbv
    rw [planStage, NodeIndex.build, NodeIndex.extend_cons rfl hwet, NodeIndex.extend_cons rfl hdry]
    rfl
  exact plan_eq_ok rfl rfl hgroups hfound hpixel hvertex

/-- The branch for `WET` comes first, so the function of the second node is kept; the other function
of the first node is met in the vertex stage of this branch. -/
theorem functions_first_woven : woven.plan wovenPass = .ok wovenPlan ∧
    (woven.draft wovenPass wovenPlan ∅).functions.functions =
      [⟨"hash", "// weave"⟩, ⟨"bump", ""⟩] ∧
    ∃ places : List (List Nat), places.Pairwise (· < ·) ∧
      List.Forall₂ (woven.FirstDeclaredAt wovenPlan) places
        [⟨"hash", "// weave"⟩, ⟨"bump", ""⟩] := by
  have hfunctions : (woven.draft wovenPass wovenPlan ∅).functions.functions =
      [⟨"hash", "// weave"⟩, ⟨"bump", ""⟩] := by
    decide +kernel
  obtain ⟨-, -, hplaces, -⟩ := functions_first plan_woven ∅
  exact ⟨plan_woven, hfunctions, hfunctions ▸ hplaces⟩

end Generator

end PassForge
