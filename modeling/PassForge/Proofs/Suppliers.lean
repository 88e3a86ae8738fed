import Mathlib.Data.List.TakeWhile
import PassForge.Proofs.Collect

/-!
# The nodes that code refers to

A walk under keywords leaves out what feeds an input that no switch has chosen.  The code of the
walk's nodes refers to other nodes by their variables (`BodyStatement.suppliers`), and looks up what
feeds an input without asking the switches.

* `MaterialGraph.mem_suppliersOf_iff`: the statements of a node refer to exactly the nodes that feed
  the slots they consult: at the root those listed, in code of the node's own those it names, and
  otherwise the one that the first switch has chosen.
* `MaterialGraph.suppliers_walked`: a node that is referred to is in the walk, unless a node with
  switches consults an input that none of them has chosen; and only a root with switches, or a node
  with switches and code of its own, can do that.
* `MaterialGraph.suppliers_unwalked`: both do it, in a graph of four nodes.
-/

namespace PassForge

/-! ### References -/

/-- The node whose variable a piece stands for. -/
def Piece.supplier? : Piece → Option NodeId
  | fed node _ => some node
  | _ => none

/-- The nodes whose variables a statement reads. -/
def BodyStatement.suppliers : BodyStatement → List NodeId
  | snippet pieces => pieces.filterMap Piece.supplier?
  | assign _ value => value.supplier?.toList
  | _ => []

/-- A placeholder of a code names a slot. -/
def Node.Names (n : Node) (code : List Char) (s : Slot) : Prop :=
  ∃ before rest, code = before ++ '$' :: rest ∧
    MaterialGraph.namedSlot? n (rest.takeWhile Text.isIdentifierChar) = some s

namespace MaterialGraph

variable {g : MaterialGraph} {root id m : NodeId} {n : Node} {slots : List SlotId}
  {active : KeywordSet} {names : StageNames}

/-- The statements written for a node of a walk; for the root, the assignments of the result. -/
def emission (g : MaterialGraph) (root : NodeId) (slots : List SlotId) (active : KeywordSet)
    (names : StageNames) (id : NodeId) : List BodyStatement :=
  if id = root then g.resultBody root slots names else g.statementsOf root active id

/-- The nodes that the statements of a node refer to. -/
def suppliersOf (g : MaterialGraph) (root : NodeId) (slots : List SlotId) (active : KeywordSet)
    (names : StageNames) (id : NodeId) : List NodeId :=
  (g.emission root slots active names id).flatMap BodyStatement.suppliers

/-- The statements of a node ask for the value of a slot. -/
def Consults (root : NodeId) (slots : List SlotId) (active : KeywordSet) (id : NodeId) (n : Node)
    (slot : SlotId) : Prop :=
  if id = root then slot ∈ slots
  else match n.code with
    | some code => ∃ s, n.Names code.toList s ∧ s.isInput = true ∧ s.id = slot
    | none =>
      n.outputs ≠ [] ∧ (n.switches.bind List.head?).bind (·.selected active) = some slot

/-- An evaluation function consists of the statements of its nodes, those of the root last. -/
theorem evaluationBody_eq_emissions (ids : List NodeId) :
    g.evaluationBody root ids slots active names =
      (ids.filter (· ≠ root)).flatMap (g.emission root slots active names) ++ [.begin names] ++
        g.emission root slots active names root ++ [.finish names] := by
  have hroot : g.emission root slots active names root = g.resultBody root slots names :=
    if_pos rfl
  have hnodes : (ids.filter (· ≠ root)).flatMap (g.emission root slots active names) =
      (ids.filter (· ≠ root)).flatMap (g.statementsOf root active) :=
    List.flatMap_congr fun id hid => if_neg (by simpa using (List.mem_filter.1 hid).2)
  rw [evaluationBody, hroot, hnodes, ← nodesBody_eq_flatMap, nodesBody, nodesBody,
    List.filter_filter]
  simp only [Bool.and_self]

/-! ### What is referred to -/

theorem supplier?_inputValue (hg : g.Wired) {slot : SlotId} :
    (g.inputValue id n slot).supplier? = some m ↔
      ∃ output, g.source? ⟨id, slot⟩ = some ⟨m, output⟩ := by
  unfold inputValue feeding?
  cases hsource : g.source? ⟨id, slot⟩ with
  | none => simp [Piece.supplier?]
  | some source =>
    obtain ⟨feeder, output⟩ := source
    obtain ⟨node, s, hnode, hs, -⟩ := (hg.of_source? hsource).1
    simp only at hnode hs
    simp [hnode, hs, Piece.supplier?]

/-- Every placeholder starts at a `$`, since none is part of a name. -/
theorem names_dollar_cons_iff {cs : List Char} {s : Slot} : n.Names ('$' :: cs) s ↔
    namedSlot? n (cs.takeWhile Text.isIdentifierChar) = some s ∨
      n.Names (cs.dropWhile Text.isIdentifierChar) s := by
  have hsplit : cs = cs.takeWhile Text.isIdentifierChar ++ cs.dropWhile Text.isIdentifierChar :=
    List.takeWhile_append_dropWhile.symm
  constructor
  · rintro ⟨before, rest, hcode, hs⟩
    cases before with
    | nil =>
      obtain ⟨-, rfl⟩ := List.cons.inj hcode
      exact .inl hs
    | cons c before =>
      obtain ⟨-, hcs⟩ := List.cons.inj hcode
      rcases of_append_eq_append_cons (hsplit.symm.trans hcs) with ⟨post, hname⟩ | ⟨pre, -, hrest⟩
      · have hmem : '$' ∈ cs.takeWhile Text.isIdentifierChar := by
          rw [hname]
          exact List.mem_append_right _ List.mem_cons_self
        exact absurd (List.mem_takeWhile_imp hmem) (by decide)
      · exact .inr ⟨pre, rest, hrest, hs⟩
  · rintro (hs | ⟨before, rest, hrest, hs⟩)
    · exact ⟨[], cs, rfl, hs⟩
    · refine ⟨'$' :: cs.takeWhile Text.isIdentifierChar ++ before, rest, ?_, hs⟩
      rw [List.append_assoc, ← hrest, List.cons_append, ← hsplit]

theorem names_cons_iff {c : Char} {cs : List Char} {s : Slot} (hc : c ≠ '$') :
    n.Names (c :: cs) s ↔ n.Names cs s := by
  constructor
  · rintro ⟨before, rest, hcode, hs⟩
    cases before with
    | nil => exact absurd (List.cons.inj hcode).1 hc
    | cons _ before => exact ⟨before, rest, (List.cons.inj hcode).2, hs⟩
  · rintro ⟨before, rest, rfl, hs⟩
    exact ⟨c :: before, rest, rfl, hs⟩

theorem supplier?_placeholder {name : List Char} : (g.placeholder id n name).supplier? = some m ↔
    ∃ s, namedSlot? n name = some s ∧ s.isInput = true ∧
      (g.inputValue id n s.id).supplier? = some m := by
  unfold placeholder
  cases namedSlot? n name with
  | none => simp [Piece.supplier?]
  | some s => by_cases hinput : s.isInput = true <;> simp [hinput, Piece.supplier?]

theorem mem_suppliers_expandChars {cs : List Char} :
    m ∈ (g.expandChars id n cs).filterMap Piece.supplier? ↔
      ∃ s, n.Names cs s ∧ s.isInput = true ∧ (g.inputValue id n s.id).supplier? = some m := by
  induction cs using expandChars.induct with
  | case1 =>
    rw [expandChars]
    constructor
    · intro hm
      exact absurd hm List.not_mem_nil
    · rintro ⟨s, ⟨before, rest, hcode, -⟩, -⟩
      exact absurd hcode.symm (List.append_ne_nil_of_right_ne_nil _ (List.cons_ne_nil _ _))
  | case2 cs ih =>
    have hcons : m ∈ (g.expandChars id n ('$' :: cs)).filterMap Piece.supplier? ↔
        (g.placeholder id n (cs.takeWhile Text.isIdentifierChar)).supplier? = some m ∨
          m ∈ (g.expandChars id n (cs.dropWhile Text.isIdentifierChar)).filterMap
            Piece.supplier? := by
      rw [expandChars, if_pos rfl]
      simp only [List.mem_filterMap, List.mem_cons, exists_eq_or_imp]
    rw [hcons, ih, supplier?_placeholder]
    simp only [names_dollar_cons_iff, or_and_right, exists_or]
  | case3 c cs hc ih =>
    have hverbatim : (g.expandChars id n (c :: cs)).filterMap Piece.supplier? =
        (g.expandChars id n cs).filterMap Piece.supplier? := by
      rw [expandChars, if_neg hc]
      exact List.filterMap_cons_none rfl
    rw [hverbatim, ih]
    simp only [names_cons_iff hc]

theorem mem_suppliers_resultBody (hg : g.Wired) (hn : g.node? root = some n) :
    m ∈ (g.resultBody root slots names).flatMap BodyStatement.suppliers ↔
      ∃ slot output, slot ∈ slots ∧ g.source? ⟨root, slot⟩ = some ⟨m, output⟩ := by
  unfold resultBody
  rw [hn]
  simp only [List.mem_flatMap, List.mem_map, List.mem_filterMap]
  constructor
  · rintro ⟨_, ⟨s, ⟨slot, hslot, hs⟩, rfl⟩, hm⟩
    obtain ⟨output, hsource⟩ := (supplier?_inputValue hg).1 (Option.mem_toList.1 hm)
    have hid : s.id = slot := by simpa using List.find?_some hs
    exact ⟨slot, output, hslot, hid ▸ hsource⟩
  · rintro ⟨slot, output, hslot, hsource⟩
    -- a slot that is fed exists
    obtain ⟨n', s, hn', hs, -⟩ := (hg.of_source? hsource).2
    cases hn.symm.trans hn'
    have hid : s.id = slot := by simpa using List.find?_some hs
    refine ⟨_, ⟨s, ⟨slot, hslot, hs⟩, rfl⟩, Option.mem_toList.2 ?_⟩
    exact (supplier?_inputValue hg).2 ⟨output, by rw [hid]; exact hsource⟩

theorem mem_suppliers_nodeBody : m ∈ (g.nodeBody id n active).flatMap BodyStatement.suppliers ↔
    m ∈ (g.compute id n active).flatMap BodyStatement.suppliers := by
  have hdeclare : (n.outputs.map fun s => BodyStatement.declare s.type (n.variableName s)).flatMap
      BodyStatement.suppliers = [] := by
    simp [List.flatMap_eq_nil_iff, BodyStatement.suppliers]
  rw [nodeBody, List.flatMap_append, hdeclare, List.nil_append]

/-- **What a node refers to** are the nodes that feed the slots it consults. -/
theorem mem_suppliersOf_iff (hg : g.Wired) (hn : g.node? id = some n) :
    m ∈ g.suppliersOf root slots active names id ↔ ∃ slot output,
      Consults root slots active id n slot ∧ g.source? ⟨id, slot⟩ = some ⟨m, output⟩ := by
  unfold suppliersOf emission Consults
  by_cases hroot : id = root
  · subst hroot
    simp only [if_true]
    exact mem_suppliers_resultBody hg hn
  · simp only [hroot, if_false, statementsOf, hn, mem_suppliers_nodeBody]
    unfold compute
    cases n.code with
    | some code =>
      simp only [List.flatMap_singleton, BodyStatement.suppliers, expand,
        mem_suppliers_expandChars, supplier?_inputValue hg]
      constructor
      · rintro ⟨s, hnamed, hinput, output, hsource⟩
        exact ⟨s.id, output, ⟨s, hnamed, hinput, rfl⟩, hsource⟩
      · rintro ⟨_, output, ⟨s, hnamed, hinput, rfl⟩, hsource⟩
        exact ⟨s, hnamed, hinput, output, hsource⟩
    | none =>
      simp only [List.mem_flatMap, List.mem_map, exists_exists_and_eq_and, BodyStatement.suppliers,
        Option.mem_toList]
      unfold passedOn
      cases (n.switches.bind List.head?).bind (·.selected active) with
      | none => simp [Piece.supplier?]
      | some slot =>
        simp only [supplier?_inputValue hg, Option.some.injEq]
        constructor
        · rintro ⟨s, hs, output, hsource⟩
          exact ⟨slot, output, ⟨List.ne_nil_of_mem hs, rfl⟩, hsource⟩
        · rintro ⟨_, output, ⟨houtputs, rfl⟩, hsource⟩
          obtain ⟨s, hs⟩ := List.exists_mem_of_ne_nil _ houtputs
          exact ⟨s, hs, output, hsource⟩

/-! ### References and walks -/

theorem mem_walkFrom_of_consults {slot output : SlotId}
    (hid : id ∈ g.walkFrom root ⟨some slots, some active⟩ []) (hn : g.node? id = some n)
    (hconsults : Consults root slots active id n slot) (hcounts : slot ∈ n.inputsFor active)
    (hsource : g.source? ⟨id, slot⟩ = some ⟨m, output⟩) :
    m ∈ g.walkFrom root ⟨some slots, some active⟩ [] := by
  have hwanted : id = root → slot ∈ slots := by
    intro hroot
    rwa [Consults, if_pos hroot] at hconsults
  exact mem_walkFrom_iff.2 ((mem_walkFrom_iff.1 hid).tail
    (fedBy_of_mem_inputsFor hn hcounts hwanted hsource))

/-- Without switches, or for a node that is not the root and has no code of its own, every input
that is consulted counts. -/
theorem mem_inputsFor_of_consults {slot : SlotId} (hslot : slot ∈ n.inputs.map Slot.id)
    (hconsults : Consults root slots active id n slot)
    (hplain : n.switches = none ∨ id ≠ root ∧ n.code = none) : slot ∈ n.inputsFor active := by
  rcases hplain with hswitches | ⟨hid, hcode⟩
  · exact Node.mem_inputsFor_of_no_switches hswitches hslot
  · rw [Consults, if_neg hid, hcode] at hconsults
    exact Node.mem_inputsFor_of_selected hconsults.2 hslot

/-- **Code refers to nodes of its walk**, as far as it keeps to what the switches have chosen.  In a
graph built step by step, an evaluation function consists of the statements of the nodes of its
walk.  Those of a node refer to exactly the nodes that feed the slots they consult.  Such a node is
itself in the walk; or else it feeds an input that no switch has chosen, of the root or of a node
with code of its own, and that one has switches. -/
theorem suppliers_walked (steps : List GraphStep) {root : NodeId} {slots : List SlotId}
    {active : KeywordSet} (names : StageNames) {ids : List NodeId}
    (hwalk : (build steps).walk root ⟨some slots, some active⟩ = .ok ids) {id : NodeId}
    (hid : id ∈ ids) {n : Node} (hn : (build steps).node? id = some n) :
    (build steps).evaluationBody root ids slots active names =
      (ids.filter (· ≠ root)).flatMap ((build steps).emission root slots active names) ++
        [.begin names] ++ (build steps).emission root slots active names root ++
        [.finish names] ∧
    (∀ m, m ∈ (build steps).suppliersOf root slots active names id ↔ ∃ slot output,
      Consults root slots active id n slot ∧
        (build steps).source? ⟨id, slot⟩ = some ⟨m, output⟩) ∧
    ∀ m ∈ (build steps).suppliersOf root slots active names id, m ∈ ids ∨
      (n.switches.isSome ∧ (id = root ∨ n.code.isSome) ∧ ∃ slot output,
        Consults root slots active id n slot ∧ slot ∉ n.inputsFor active ∧
          (build steps).source? ⟨id, slot⟩ = some ⟨m, output⟩) := by
  have hg := wired_build steps
  obtain ⟨-, rfl⟩ := walk_eq_ok_iff.1 hwalk
  refine ⟨evaluationBody_eq_emissions _, fun m => mem_suppliersOf_iff hg hn, fun m hm => ?_⟩
  obtain ⟨slot, output, hconsults, hsource⟩ := (mem_suppliersOf_iff hg hn).1 hm
  by_cases hcounts : slot ∈ n.inputsFor active
  · exact .inl (mem_walkFrom_of_consults hid hn hconsults hcounts hsource)
  · have hslot : slot ∈ n.inputs.map Slot.id := (hg.of_source? hsource).2.mem_inputs hn
    -- otherwise the input would count
    have hgated : ¬ (n.switches = none ∨ id ≠ root ∧ n.code = none) :=
      fun hplain => hcounts (mem_inputsFor_of_consults hslot hconsults hplain)
    rw [not_or, not_and_or, not_ne_iff] at hgated
    exact .inr ⟨Option.isSome_iff_ne_none.2 hgated.1,
      hgated.2.imp_right Option.isSome_iff_ne_none.2, slot, output, hconsults, hcounts, hsource⟩

/-- In snow, the layer of `stone` has no code of its own and refers to the detail, which is in the
walk. -/
theorem suppliers_walked_stone :
    stone.walk ⟨4, 1⟩ ⟨some [0], some (.ofList ["SNOW"])⟩ =
      .ok [⟨1, 3⟩, ⟨2, 1⟩, ⟨3, 1⟩, ⟨4, 1⟩] ∧
    ⟨2, 1⟩ ∈ stone.suppliersOf ⟨4, 1⟩ [0] (.ofList ["SNOW"]) Stage.pixel.names ⟨3, 1⟩ ∧
    ∀ m ∈ stone.suppliersOf ⟨4, 1⟩ [0] (.ofList ["SNOW"]) Stage.pixel.names ⟨3, 1⟩,
      m ∈ ([⟨1, 3⟩, ⟨2, 1⟩, ⟨3, 1⟩, ⟨4, 1⟩] : List NodeId) := by
  have hlayer : (build stoneSteps).node? ⟨3, 1⟩ =
      some { Node.selector "Layer" [⟨"WET", 0⟩, ⟨"SNOW", 1⟩, ⟨"ICE", 1⟩] .none with serial := 3 } :=
    rfl
  obtain ⟨-, hexact, hwalked⟩ :=
    suppliers_walked stoneSteps Stage.pixel.names walk_stone_snow (by decide) hlayer
  refine ⟨walk_stone_snow, (hexact ⟨2, 1⟩).2 ⟨1, 2, ⟨by decide, by decide⟩, by decide⟩,
    fun m hm => ?_⟩
  refine (hwalked m hm).resolve_right ?_
  rintro ⟨-, hroot | hcode, -⟩
  · exact absurd hroot (by decide)
  · exact absurd hcode (by decide)

/-! ### Code that does not keep to its switches -/

/-- A selector that mixes both of its inputs, whatever its switch has chosen. -/
def mixer : Node :=
  { Node.selector "Mix" [⟨"_", 0⟩, ⟨"WET", 1⟩] .none with
    code := some "$Out = lerp($A, $B, 0.5);" }

/-- A material with a mixer of two tints. -/
def mixed : MaterialGraph := build [
  .add .tint, .add { Node.tint with name := "Moss" }, .add mixer, .add .surface,
  .connect ⟨⟨1, 1⟩, 1⟩ ⟨⟨3, 1⟩, 0⟩, .connect ⟨⟨2, 1⟩, 1⟩ ⟨⟨3, 1⟩, 1⟩,
  .connect ⟨⟨3, 1⟩, 2⟩ ⟨⟨4, 1⟩, 0⟩]

/-- **Code can refer to a node that is not in its walk.**  Without keywords the mixer has chosen its
first input, so the moss is in neither walk.  But the code of the mixer refers to it; and so do the
assignments of the result, if the mixer is the root. -/
theorem suppliers_unwalked :
    (∃ n, mixed.node? ⟨3, 1⟩ = some n ∧ n.switches.isSome) ∧
    mixed.walk ⟨4, 1⟩ ⟨some [0], some ∅⟩ = .ok [⟨1, 1⟩, ⟨3, 1⟩, ⟨4, 1⟩] ∧
    ⟨2, 1⟩ ∈ mixed.suppliersOf ⟨4, 1⟩ [0] ∅ Stage.pixel.names ⟨3, 1⟩ ∧
    mixed.walk ⟨3, 1⟩ ⟨some [0, 1], some ∅⟩ = .ok [⟨1, 1⟩, ⟨3, 1⟩] ∧
    ⟨2, 1⟩ ∈ mixed.suppliersOf ⟨3, 1⟩ [0, 1] ∅ Stage.pixel.names ⟨3, 1⟩ := by
  have hnode : mixed.node? ⟨3, 1⟩ = some { mixer with serial := 2 } := rfl
  have hsource : mixed.source? ⟨⟨3, 1⟩, 1⟩ = some ⟨⟨2, 1⟩, 1⟩ := by decide
  have hnames : mixer.Names "$Out = lerp($A, $B, 0.5);".toList ⟨1, "B", .input, .float3, none⟩ :=
    ⟨"$Out = lerp($A, ".toList, "B, 0.5);".toList, by decide, by decide⟩
  have hlisted : Consults ⟨3, 1⟩ [0, 1] ∅ ⟨3, 1⟩ { mixer with serial := 2 } 1 := by
    rw [Consults, if_pos rfl]
    decide
  exact ⟨⟨_, hnode, rfl⟩, by cbv,
    (mem_suppliersOf_iff (wired_build _) hnode).2 ⟨1, 1, ⟨_, hnames, rfl, rfl⟩, hsource⟩, by cbv,
    (mem_suppliersOf_iff (wired_build _) hnode).2 ⟨1, 1, hlisted, hsource⟩⟩

end MaterialGraph

end PassForge
