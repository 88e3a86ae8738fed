import PassForge.Emit.Evaluation
import PassForge.Proofs.GraphStore

/-!
# Variables are declared before they are read

The body of an evaluation function reads, for an input that is fed, the variable of the output that
feeds it (`BodyStatement.upstream`).  Three kinds of statements do: the code of a node, the
assignment of a node without code that passes an input on, and the assignment of a member of the
result.

* `MaterialGraph.exists_fedBy_of_mem_upstream`, `MaterialGraph.exists_fedBy_of_mem_resultBody`: what
  a statement reads comes in through an input that the walk has followed.
* `MaterialGraph.exists_declare`: every node of the walk, but for the root, declares its outputs.
* `MaterialGraph.declared_before_read`: so, without circles, in a graph that was built step by step,
  every variable is declared before it is read, by a line of its type and its name.
-/

namespace PassForge

/-! ### What a statement reads -/

/-- The variable of another node that a piece stands for. -/
def Piece.upstream? : Piece → Option String
  | fed _ name => some name
  | _ => none

/-- The variables of other nodes that a statement reads. -/
def BodyStatement.upstream : BodyStatement → List String
  | snippet pieces => pieces.filterMap Piece.upstream?
  | assign _ value => value.upstream?.toList
  | _ => []

/-! ### Items of lists that are put together -/

/-- An item of two lists stands in the first, or in the second and after the first. -/
theorem of_append_eq_append_cons {α : Type} {l l' pre post : List α} {a : α}
    (h : l ++ l' = pre ++ a :: post) :
    (∃ post', l = pre ++ a :: post') ∨ ∃ pre', pre = l ++ pre' ∧ l' = pre' ++ a :: post := by
  rcases List.append_eq_append_iff.1 h with ⟨pre', hpre, hl'⟩ | ⟨rest, hl, hrest⟩
  · exact .inr ⟨pre', hpre, hl'⟩
  · cases rest with
    | nil => exact .inr ⟨[], by simpa using hl.symm, hrest.symm⟩
    | cons b rest =>
      obtain ⟨rfl, -⟩ := List.cons.inj hrest
      exact .inl ⟨rest, hl⟩

/-- An item of a concatenation stands in one of the parts, after the parts before it. -/
theorem exists_of_flatMap_eq_append {α β : Type} {f : α → List β} {l : List α} {pre post : List β}
    {b : β} (h : l.flatMap f = pre ++ b :: post) :
    ∃ before a after, l = before ++ a :: after ∧ b ∈ f a ∧ before.flatMap f ⊆ pre := by
  induction l generalizing pre with
  | nil => simp at h
  | cons a l ih =>
    rw [List.flatMap_cons] at h
    rcases of_append_eq_append_cons h with ⟨post', hfirst⟩ | ⟨pre', rfl, hrest⟩
    · refine ⟨[], a, l, rfl, ?_, List.nil_subset _⟩
      rw [hfirst]
      exact List.mem_append_right _ List.mem_cons_self
    · obtain ⟨before, a', after, rfl, hb, hbefore⟩ := ih hrest
      refine ⟨a :: before, a', after, rfl, hb, ?_⟩
      rw [List.flatMap_cons]
      exact List.append_subset.2 ⟨List.subset_append_left _ _,
        fun c hc => List.mem_append_right _ (hbefore hc)⟩

/-! ### Inputs that count -/

theorem Switch.leadsTo_of_selected {s : Switch} {active : KeywordSet} {slot : SlotId}
    (h : s.selected active = some slot) : s.leadsTo slot = true := by
  obtain ⟨r, hr, rfl⟩ := Option.map_eq_some_iff.1 h
  have hmem : r ∈ s.routes := by
    rcases Option.or_eq_some_iff.1 hr with hr | ⟨-, hr⟩
    · exact List.mem_of_find?_eq_some hr
    · exact List.mem_of_find?_eq_some hr
  exact List.any_eq_true.2 ⟨r, hmem, beq_self_eq_true _⟩

namespace Node

variable {n : Node} {active : KeywordSet} {slot : SlotId}

theorem mem_inputsFor_of_no_switches (h : n.switches = none) (hslot : slot ∈ n.inputs.map Slot.id) :
    slot ∈ n.inputsFor active := by
  unfold inputsFor
  rw [h]
  exact hslot

/-- The input that the first switch has chosen counts, whatever the other switches choose. -/
theorem mem_inputsFor_of_selected
    (h : (n.switches.bind List.head?).bind (·.selected active) = some slot)
    (hslot : slot ∈ n.inputs.map Slot.id) : slot ∈ n.inputsFor active := by
  obtain ⟨s, hs, hselected⟩ := Option.bind_eq_some_iff.1 h
  obtain ⟨switches, hswitches, hhead⟩ := Option.bind_eq_some_iff.1 hs
  have hrouting : s ∈ switches.filter (·.leadsTo slot) :=
    List.mem_filter.2 ⟨List.mem_of_mem_head? hhead, Switch.leadsTo_of_selected hselected⟩
  unfold inputsFor
  rw [hswitches]
  refine List.mem_filter.2 ⟨hslot, ?_⟩
  unfold follows
  rw [Bool.or_eq_true, List.any_eq_true]
  exact .inr ⟨s, hrouting, beq_iff_eq.2 hselected⟩

end Node

namespace MaterialGraph

variable {g : MaterialGraph} {root id m : NodeId} {n : Node} {slots : List SlotId}
  {active : KeywordSet} {x : String}

theorem HasSlot.mem_inputs {slot : SlotId} (h : g.HasSlot ⟨id, slot⟩ .input)
    (hn : g.node? id = some n) : slot ∈ n.inputs.map Slot.id := by
  obtain ⟨n', s, hn', hs, hdirection⟩ := h
  cases hn.symm.trans hn'
  have hid : s.id = slot := by simpa using List.find?_some hs
  refine List.mem_map.2 ⟨s, List.mem_filter.2 ⟨List.mem_of_find?_eq_some hs, ?_⟩, hid⟩
  rw [Slot.isInput, hdirection]
  rfl

theorem fedBy_of_mem_inputsFor {slot : SlotId} {source : SlotRef} (hn : g.node? id = some n)
    (hslot : slot ∈ n.inputsFor active) (hwanted : id = root → slot ∈ slots)
    (hsource : g.source? ⟨id, slot⟩ = some source) :
    g.FedBy root ⟨some slots, some active⟩ id source.node := by
  refine fedBy_iff.2 ⟨slot, mem_followed_iff.2 ⟨n, hn, hslot, fun hroot wanted hw => ?_⟩, source,
    hsource, rfl⟩
  cases hw
  exact hwanted hroot

/-! ### Where a variable comes from -/

/-- A variable belongs to an output of a node. -/
def Supplies (g : MaterialGraph) (m : NodeId) (x : String) : Prop :=
  ∃ n output, g.node? m = some n ∧ output ∈ n.outputs ∧ n.variableName output = x

theorem exists_source_of_inputValue (hg : g.Wired) {slot : SlotId}
    (hx : (g.inputValue id n slot).upstream? = some x) :
    ∃ source, g.source? ⟨id, slot⟩ = some source ∧ g.Supplies source.node x := by
  unfold inputValue at hx
  cases hfeeding : g.feeding? id slot with
  | none =>
    rw [hfeeding] at hx
    cases hx
  | some feeding =>
    obtain ⟨m, node, output⟩ := feeding
    rw [hfeeding] at hx
    simp only [feeding?, Option.bind_eq_bind, Option.bind_eq_some_iff, Option.pure_def,
      Option.some.injEq, Prod.mk.injEq] at hfeeding
    obtain ⟨source, hsource, node', hnode, output', houtput, rfl, rfl, rfl⟩ := hfeeding
    obtain ⟨n', s, hn', hs, hdirection⟩ := (hg.of_source? hsource).1
    cases hnode.symm.trans hn'
    cases houtput.symm.trans hs
    refine ⟨source, hsource, node', output', hnode, ?_, Option.some.inj hx⟩
    refine List.mem_filter.2 ⟨List.mem_of_find?_eq_some houtput, ?_⟩
    rw [Slot.isInput, hdirection]
    rfl

/-- A placeholder reads a variable of another node only where it names an input. -/
theorem exists_input_of_mem_expandChars {cs : List Char} {p : Piece}
    (hp : p ∈ g.expandChars id n cs) (hx : p.upstream? = some x) :
    ∃ slot ∈ n.inputs.map Slot.id, (g.inputValue id n slot).upstream? = some x := by
  induction cs using expandChars.induct with
  | case1 =>
    rw [expandChars] at hp
    exact absurd hp List.not_mem_nil
  | case2 cs ih =>
    rw [expandChars, if_pos rfl] at hp
    rcases List.mem_cons.1 hp with rfl | hp
    · unfold placeholder at hx
      split at hx
      · cases hx
      · rename_i s hs
        split at hx
        · rename_i hinput
          have hmem : s ∈ n.slots := by
            unfold namedSlot? at hs
            split at hs
            · cases hs
            · exact List.mem_of_find?_eq_some hs
          exact ⟨s.id, List.mem_map.2 ⟨s, List.mem_filter.2 ⟨hmem, hinput⟩, rfl⟩, hx⟩
        · cases hx
    · exact ih hp
  | case3 c cs hc ih =>
    rw [expandChars, if_neg hc] at hp
    rcases List.mem_cons.1 hp with rfl | hp
    · cases hx
    · exact ih hp

/-- What the statements of a node read comes in through inputs that are followed. -/
theorem exists_fedBy_of_mem_upstream (hg : g.Wired) (hn : g.node? id = some n) (hid : id ≠ root)
    (hcode : n.switches.isSome → n.code = none) {stmt : BodyStatement}
    (hstmt : stmt ∈ g.nodeBody id n active) (hx : x ∈ stmt.upstream) :
    ∃ m, g.FedBy root ⟨some slots, some active⟩ id m ∧ g.Supplies m x := by
  -- the input that is read, and why it is followed
  have hread : ∃ slot, (g.inputValue id n slot).upstream? = some x ∧
      (slot ∈ n.inputs.map Slot.id → slot ∈ n.inputsFor active) := by
    rcases List.mem_append.1 hstmt with hstmt | hstmt
    · obtain ⟨output, -, rfl⟩ := List.mem_map.1 hstmt
      exact absurd hx List.not_mem_nil
    · unfold compute at hstmt
      cases hc : n.code with
      | some code =>
        rw [hc] at hstmt
        rw [List.mem_singleton.1 hstmt] at hx
        obtain ⟨p, hp, hpx⟩ := List.mem_filterMap.1 hx
        obtain ⟨slot, -, hslot⟩ := exists_input_of_mem_expandChars hp hpx
        have hnone : n.switches = none := by
          cases hs : n.switches with
          | none => rfl
          | some switches => cases hc.symm.trans (hcode (by rw [hs]; rfl))
        exact ⟨slot, hslot, Node.mem_inputsFor_of_no_switches hnone⟩
      | none =>
        rw [hc] at hstmt
        obtain ⟨output, -, rfl⟩ := List.mem_map.1 hstmt
        have hx' : (g.passedOn id n active output).upstream? = some x := Option.mem_toList.1 hx
        unfold passedOn at hx'
        split at hx'
        · rename_i slot hslot
          exact ⟨slot, hx', Node.mem_inputsFor_of_selected hslot⟩
        · cases hx'
  obtain ⟨slot, hslot, hfollowed⟩ := hread
  obtain ⟨source, hsource, hsupplies⟩ := exists_source_of_inputValue hg hslot
  have hinput := (hg.of_source? hsource).2.mem_inputs hn
  exact ⟨source.node,
    fedBy_of_mem_inputsFor hn (hfollowed hinput) (fun hroot => absurd hroot hid) hsource, hsupplies⟩

theorem exists_fedBy_of_mem_resultBody (hg : g.Wired) (hn : g.node? root = some n)
    (hswitches : n.switches = none) {names : StageNames} {stmt : BodyStatement}
    (hstmt : stmt ∈ g.resultBody root slots names) (hx : x ∈ stmt.upstream) :
    ∃ m, g.FedBy root ⟨some slots, some active⟩ root m ∧ g.Supplies m x := by
  unfold resultBody at hstmt
  rw [hn] at hstmt
  obtain ⟨s, hs, rfl⟩ := List.mem_map.1 hstmt
  obtain ⟨slot, hslot, hfind⟩ := List.mem_filterMap.1 hs
  have hid : s.id = slot := by simpa using List.find?_some hfind
  obtain ⟨source, hsource, hsupplies⟩ :=
    exists_source_of_inputValue hg (Option.mem_toList.1 hx)
  have hinput := (hg.of_source? hsource).2.mem_inputs hn
  exact ⟨source.node, fedBy_of_mem_inputsFor hn
    (Node.mem_inputsFor_of_no_switches hswitches hinput) (fun _ => hid ▸ hslot) hsource, hsupplies⟩

/-! ### Where a variable is declared -/

/-- The statements of one node of a walk; the root has none. -/
def statementsOf (g : MaterialGraph) (root : NodeId) (active : KeywordSet) (id : NodeId) :
    List BodyStatement :=
  if id = root then [] else
    match g.node? id with
    | none => []
    | some n => g.nodeBody id n active

theorem nodesBody_eq_flatMap {ids : List NodeId} :
    g.nodesBody root ids active = ids.flatMap (g.statementsOf root active) := by
  unfold nodesBody
  induction ids with
  | nil => rfl
  | cons id ids ih =>
    by_cases hid : id = root
    · rw [List.filter_cons_of_neg (by simpa using hid), ih, List.flatMap_cons, statementsOf,
        if_pos hid, List.nil_append]
    · have hstatements : g.statementsOf root active id =
          match g.node? id with
          | none => []
          | some n => g.nodeBody id n active := if_neg hid
      rw [List.filter_cons_of_pos (by simpa using hid), List.flatMap_cons, List.flatMap_cons, ih]
      exact congrArg (· ++ _) hstatements.symm

theorem exists_declare (active : KeywordSet) {ids : List NodeId} (hx : g.Supplies m x)
    (hm : m ∈ ids) (hroot : m ≠ root) : ∃ type, .declare type x ∈ g.nodesBody root ids active := by
  obtain ⟨n, output, hn, houtput, rfl⟩ := hx
  refine ⟨output.type, ?_⟩
  rw [nodesBody_eq_flatMap, List.mem_flatMap]
  refine ⟨m, hm, ?_⟩
  unfold statementsOf
  rw [if_neg hroot, hn]
  exact List.mem_append_left _ (List.mem_map.2 ⟨output, houtput, rfl⟩)

theorem ne_root_of_fedBy {gate : Gate}
    (hacyclic : ∀ id ∈ g.walkFrom root gate [], ¬ Relation.TransGen (g.FedBy root gate) id id)
    (hid : id ∈ g.walkFrom root gate []) (hm : g.FedBy root gate id m) : m ≠ root := by
  rintro rfl
  exact hacyclic m (mem_walkFrom_iff.2 .refl) (.tail' (mem_walkFrom_iff.1 hid) hm)

theorem exists_declare_of_nodesBody (hg : g.Wired)
    (hacyclic : ∀ id ∈ g.walkFrom root ⟨some slots, some active⟩ [],
      ¬ Relation.TransGen (g.FedBy root ⟨some slots, some active⟩) id id)
    (hcode : ∀ id ∈ g.walkFrom root ⟨some slots, some active⟩ [], ∀ n, g.node? id = some n →
      n.switches.isSome → n.code = none) {pre post : List BodyStatement} {stmt : BodyStatement}
    (hbody : g.nodesBody root (g.walkFrom root ⟨some slots, some active⟩ []) active =
      pre ++ stmt :: post) (hx : x ∈ stmt.upstream) : ∃ type, .declare type x ∈ pre := by
  rw [nodesBody_eq_flatMap] at hbody
  obtain ⟨before, id, after, hwalk, hstmt, hpre⟩ := exists_of_flatMap_eq_append hbody
  have hid : id ∈ g.walkFrom root ⟨some slots, some active⟩ [] := by
    rw [hwalk]
    exact List.mem_append_right _ List.mem_cons_self
  unfold statementsOf at hstmt
  split at hstmt
  · exact absurd hstmt List.not_mem_nil
  · rename_i hne
    split at hstmt
    · exact absurd hstmt List.not_mem_nil
    · rename_i n hn
      obtain ⟨m, hm, hsupplies⟩ :=
        exists_fedBy_of_mem_upstream hg hn hne (hcode id hid n hn) hstmt hx
      -- the node that feeds stands before, so its declarations do
      have hbefore : m ∈ before := mem_before_of_fedBy hwalk hacyclic hm
      obtain ⟨type, hdeclare⟩ := exists_declare active hsupplies hbefore
        (ne_root_of_fedBy hacyclic hid hm)
      rw [nodesBody_eq_flatMap] at hdeclare
      exact ⟨type, hpre hdeclare⟩

/-- The lines of two statements stand in the function in the order of the statements. -/
theorem exists_evaluationFunction_eq {names : StageNames} {ids : List NodeId}
    {pre mid post : List BodyStatement} {a b : BodyStatement}
    (hbody : g.evaluationBody root ids slots active names = pre ++ a :: mid ++ b :: post) :
    ∃ before between after, g.evaluationFunction root ids slots active names =
      before ++ a.code.indented ++ between ++ b.code.indented ++ after := by
  refine ⟨Code.line (names.outputStruct ++ " " ++ names.function ++ "(" ++ names.inputStruct ++
    " IN)") ++ Code.line "\x7b" ++ Code.indented (pre.flatMap BodyStatement.code),
    Code.indented (mid.flatMap BodyStatement.code),
    Code.indented (post.flatMap BodyStatement.code) ++ Code.line "\x7d", ?_⟩
  simp only [evaluationFunction, hbody, Code.block, List.flatMap_append, List.flatMap_cons,
    Code.indented, List.map_append, List.append_assoc]

/-- **Variables are declared before they are read.**  In a graph built step by step, for a root
without switches and keywords under which the walk follows no circle, where nodes with switches have
no code of their own: every variable of another node that a statement of the evaluation function
reads is declared by a statement before it.  In the code of the function, the declaration is a line
of the variable's type and name, above the lines of the statement. -/
theorem declared_before_read (steps : List GraphStep) (root : NodeId) (slots : List SlotId)
    (active : KeywordSet) (names : StageNames)
    (hroot : (build steps).node? root = some n) (hswitches : n.switches = none)
    (hacyclic : ∀ id ∈ (build steps).walkFrom root ⟨some slots, some active⟩ [],
      ¬ Relation.TransGen ((build steps).FedBy root ⟨some slots, some active⟩) id id)
    (hcode : ∀ id ∈ (build steps).walkFrom root ⟨some slots, some active⟩ [], ∀ m,
      (build steps).node? id = some m → m.switches.isSome → m.code = none) :
    ∃ ids, (build steps).walk root ⟨some slots, some active⟩ = .ok ids ∧
      ∀ pre stmt post,
        (build steps).evaluationBody root ids slots active names = pre ++ stmt :: post →
        ∀ x ∈ stmt.upstream, ∃ type, .declare type x ∈ pre ∧
          ∃ before between after,
            (build steps).evaluationFunction root ids slots active names =
              before ++ [⟨1, type.name ++ " " ++ x ++ ";"⟩] ++ between ++ stmt.code.indented ++
                after := by
  refine ⟨_, walk_eq_ok_iff.2 ⟨⟨n, hroot⟩, rfl⟩, fun pre stmt post hbody x hx => ?_⟩
  suffices hdeclared : ∃ type, .declare type x ∈ pre by
    obtain ⟨type, hdeclare⟩ := hdeclared
    obtain ⟨pre₁, pre₂, rfl⟩ := List.append_of_mem hdeclare
    exact ⟨type, hdeclare, exists_evaluationFunction_eq hbody⟩
  have hg := wired_build steps
  rw [evaluationBody, List.append_assoc, List.append_assoc] at hbody
  rcases of_append_eq_append_cons hbody with ⟨post', hnodes⟩ | ⟨pre', rfl, hrest⟩
  · exact exists_declare_of_nodesBody hg hacyclic hcode hnodes hx
  · -- after the nodes, only the assignments of the result read anything
    have hmem : stmt ∈ [.begin names] ++ ((build steps).resultBody root slots names ++
        [.finish names]) := by
      rw [hrest]
      exact List.mem_append_right _ List.mem_cons_self
    have hresult : stmt ∈ (build steps).resultBody root slots names := by
      simp only [List.mem_append, List.mem_singleton] at hmem
      rcases hmem with rfl | hmem | rfl
      · exact absurd hx List.not_mem_nil
      · exact hmem
      · exact absurd hx List.not_mem_nil
    obtain ⟨m, hm, hsupplies⟩ := exists_fedBy_of_mem_resultBody hg hroot hswitches hresult hx
    have hmwalk := mem_walkFrom_iff.2 (.single hm)
    obtain ⟨type, hdeclare⟩ := exists_declare active hsupplies hmwalk
      (ne_root_of_fedBy hacyclic (mem_walkFrom_iff.2 .refl) hm)
    exact ⟨type, List.mem_append_left _ hdeclare⟩

theorem not_transGen_of_index_lt {gate : Gate}
    (h : ∀ e ∈ g.wiring.edges, e.source.node.index < e.target.node.index) :
    ¬ Relation.TransGen (g.FedBy root gate) id id := by
  have hstep : ∀ a b, g.FedBy root gate a b → b.index < a.index := by
    intro a b hab
    obtain ⟨slot, -, source, hsource, rfl⟩ := fedBy_iff.1 hab
    obtain ⟨e, he, rfl⟩ := Option.map_eq_some_iff.1 hsource
    have htarget : e.target = ⟨a, slot⟩ := by simpa using List.find?_some he
    have hlt := h e (List.mem_of_find?_eq_some he)
    rw [htarget] at hlt
    exact hlt
  have hpath : ∀ a b, Relation.TransGen (g.FedBy root gate) a b → b.index < a.index := by
    intro a b hab
    induction hab with
    | single hab => exact hstep _ _ hab
    | tail _ hbc ih => exact Nat.lt_trans (hstep _ _ hbc) ih
  exact fun hcircle => Nat.lt_irrefl _ (hpath id id hcircle)

/-- In snow, the layer of `stone` passes on the detail, which has been declared before. -/
theorem declared_before_read_stone :
    stone.walk ⟨4, 1⟩ ⟨some [0], some (.ofList ["SNOW"])⟩ =
      .ok [⟨1, 3⟩, ⟨2, 1⟩, ⟨3, 1⟩, ⟨4, 1⟩] ∧
    ∃ pre post before between after,
      stone.evaluationBody ⟨4, 1⟩ [⟨1, 3⟩, ⟨2, 1⟩, ⟨3, 1⟩, ⟨4, 1⟩] [0] (.ofList ["SNOW"])
        Stage.pixel.names = pre ++ .assign "Layer_3_Out" (.fed ⟨2, 1⟩ "Detail_2_Out") :: post ∧
      .declare .float3 "Detail_2_Out" ∈ pre ∧
      stone.evaluationFunction ⟨4, 1⟩ [⟨1, 3⟩, ⟨2, 1⟩, ⟨3, 1⟩, ⟨4, 1⟩] [0] (.ofList ["SNOW"])
        Stage.pixel.names = before ++ [⟨1, "float3 Detail_2_Out;"⟩] ++ between ++
          [⟨1, "Layer_3_Out = Detail_2_Out;"⟩] ++ after := by
  have hcode : ∀ id ∈ ([⟨1, 3⟩, ⟨2, 1⟩, ⟨3, 1⟩, ⟨4, 1⟩] : List NodeId),
      (stone.node? id).all fun m => !m.switches.isSome || m.code.isNone := by
    decide
  have hmem : .assign "Layer_3_Out" (.fed ⟨2, 1⟩ "Detail_2_Out") ∈ stone.evaluationBody ⟨4, 1⟩
      [⟨1, 3⟩, ⟨2, 1⟩, ⟨3, 1⟩, ⟨4, 1⟩] [0] (.ofList ["SNOW"]) Stage.pixel.names := by
    decide
  obtain ⟨pre, post, hbody⟩ := List.append_of_mem hmem
  obtain ⟨ids, hids, hscoped⟩ := declared_before_read stoneSteps ⟨4, 1⟩ [0] (.ofList ["SNOW"])
    Stage.pixel.names rfl rfl (fun id _ => not_transGen_of_index_lt (by decide))
    (fun id hid m hm hs => by
      have hall := hcode id ((walk_eq_ok_iff.1 walk_stone_snow).2 ▸ hid)
      rw [show stone.node? id = some m from hm, Option.all_some, hs] at hall
      exact Option.isNone_iff_eq_none.1 hall)
  cases walk_stone_snow.symm.trans hids
  obtain ⟨type, hdeclare, before, between, after, hfunction⟩ :=
    hscoped pre _ post hbody "Detail_2_Out" (by decide)
  have htype : type = .float3 := by
    have hdeclared : .declare type "Detail_2_Out" ∈ stone.evaluationBody ⟨4, 1⟩
        [⟨1, 3⟩, ⟨2, 1⟩, ⟨3, 1⟩, ⟨4, 1⟩] [0] (.ofList ["SNOW"]) Stage.pixel.names :=
      hbody ▸ List.mem_append_left _ hdeclare
    revert hdeclared
    cases type <;> decide
  subst htype
  exact ⟨walk_stone_snow, pre, post, before, between, after, hbody, hdeclare, hfunction⟩

end MaterialGraph

end PassForge
