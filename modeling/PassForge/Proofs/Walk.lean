import PassForge.Graph.Walk
import PassForge.Proofs.DepthFirst

/-!
# What a walk finds

A walk lists the nodes that can be reached from its root against the edges it follows, each once.
`mem_walkFrom_iff` says so for a walk from scratch; `walkFrom_congr` says that two graphs and gates
that agree on what feeds the nodes of a walk give the same walk; and `mem_walkFrom_of_gated` that a
gate with keywords only leaves nodes out.

Without circles among the followed edges, a node stands after the nodes that feed it
(`mem_before_of_fedBy`).
-/

namespace PassForge

/-! ### Computations that can fail -/

theorem bind_eq_ok_iff {ε α β : Type} {x : Except ε α} {f : α → Except ε β} {b : β} :
    (x >>= f) = .ok b ↔ ∃ a, x = .ok a ∧ f a = .ok b := by
  cases x <;> simp [bind, Except.bind]

theorem pure_eq_ok_iff {ε α : Type} {a b : α} : (pure a : Except ε α) = .ok b ↔ a = b := by
  simp [pure, Except.pure]

theorem mapError_eq_ok_iff {ε ε' α : Type} {x : Except ε α} {f : ε → ε'} {a : α} :
    x.mapError f = .ok a ↔ x = .ok a := by
  cases x with
  | ok b =>
    have hok : (Except.ok b : Except ε α).mapError f = .ok b := rfl
    rw [hok, Except.ok.injEq, Except.ok.injEq]
  | error e =>
    constructor
    · intro h
      cases h
    · intro h
      cases h

/-! ### Inputs -/

/-- The keywords only leave inputs out. -/
theorem Node.mem_inputs_of_mem_inputsUnder {n : Node} {keywords : Option KeywordSet}
    {slot : SlotId} (h : slot ∈ n.inputsUnder keywords) : slot ∈ n.inputs.map Slot.id := by
  cases keywords with
  | none => exact h
  | some active =>
    simp only [inputsUnder, inputsFor] at h
    split at h
    · exact h
    · exact (List.mem_filter.1 h).1

namespace MaterialGraph

variable {g g' : MaterialGraph} {root : NodeId} {gate gate' : Gate} {id m : NodeId}

/-- A node and one that feeds it through an input that is followed. -/
def FedBy (g : MaterialGraph) (root : NodeId) (gate : Gate) (id m : NodeId) : Prop :=
  m ∈ g.feeders root gate id

theorem node_eq_ok_iff {n : Node} : g.node id = .ok n ↔ g.node? id = some n := by
  unfold node
  cases g.node? id <;> simp

theorem node_of_node?_eq_none (h : g.node? id = none) : g.node id = .error (.unknownNode id) := by
  rw [node, h]

theorem walk_eq_ok_iff {ids : List NodeId} :
    g.walk root gate = .ok ids ↔ (∃ n, g.node? root = some n) ∧ ids = g.walkFrom root gate [] := by
  simp only [walk, collect, bind_eq_ok_iff, pure_eq_ok_iff, node_eq_ok_iff]
  constructor
  · rintro ⟨n, hn, rfl⟩
    exact ⟨⟨n, hn⟩, rfl⟩
  · rintro ⟨⟨n, hn⟩, rfl⟩
    exact ⟨n, hn, rfl⟩

/-- An input is followed if it counts under the keywords and, at the root, is asked for. -/
theorem mem_followed_iff {slot : SlotId} : slot ∈ g.followed root gate id ↔
    ∃ n, g.node? id = some n ∧ slot ∈ n.inputsUnder gate.keywords ∧
      (id = root → ∀ wanted, gate.rootSlots = some wanted → slot ∈ wanted) := by
  unfold followed
  cases g.node? id with
  | none => simp
  | some n =>
    by_cases hroot : id = root
    · cases gate.rootSlots with
      | none => simp [hroot]
      | some wanted => simp [hroot]
    · simp [hroot]

theorem fedBy_iff : g.FedBy root gate id m ↔
    ∃ slot ∈ g.followed root gate id, ∃ source, g.source? ⟨id, slot⟩ = some source ∧
      source.node = m := by
  simp [FedBy, feeders]

theorem exists_visits_walkFrom (g : MaterialGraph) (root : NodeId) (gate : Gate)
    (initial : List NodeId) :
    ∃ new met', DepthFirst.Visits (g.feeders root gate) initial [root] new met' ∧
      g.walkFrom root gate initial = initial ++ new := by
  obtain ⟨new, met', h⟩ := DepthFirst.exists_visits
    (fun _ _ h => g.mem_walkBound_of_mem_feeders root gate h) initial [root]
    (fun a ha => List.mem_singleton.1 ha ▸ List.mem_cons_self)
  exact ⟨new, met', h, DepthFirst.order_eq h⟩

theorem visits_walkFrom (g : MaterialGraph) (root : NodeId) (gate : Gate) :
    ∃ met', DepthFirst.Visits (g.feeders root gate) [] [root] (g.walkFrom root gate []) met' := by
  obtain ⟨new, met', h, heq⟩ := g.exists_visits_walkFrom root gate []
  rw [heq, List.nil_append]
  exact ⟨met', h⟩

theorem leads_nil_iff : DepthFirst.Leads (g.feeders root gate) [] = g.FedBy root gate := by
  funext a b
  exact propext ⟨fun h => h.1, fun h => ⟨h, List.not_mem_nil⟩⟩

/-- **The nodes of a walk** are those that the root needs, directly or not. -/
theorem mem_walkFrom_iff :
    id ∈ g.walkFrom root gate [] ↔ Relation.ReflTransGen (g.FedBy root gate) root id := by
  obtain ⟨_, h⟩ := g.visits_walkFrom root gate
  rw [h.mem_iff, leads_nil_iff]
  constructor
  · rintro ⟨a, ha, -, hpath⟩
    exact List.mem_singleton.1 ha ▸ hpath
  · exact fun hpath => ⟨root, List.mem_cons_self, List.not_mem_nil, hpath⟩

/-- A walk depends only on what feeds the nodes it lists. -/
theorem walkFrom_congr
    (h : ∀ id ∈ g.walkFrom root gate [], g.feeders root gate id = g'.feeders root gate' id) :
    g.walkFrom root gate [] = g'.walkFrom root gate' [] := by
  obtain ⟨_, hv⟩ := g.visits_walkFrom root gate
  exact (DepthFirst.order_eq (hv.congr h)).symm

/-- **Without circles, a node stands after the nodes that feed it.** -/
theorem mem_before_of_fedBy {before after : List NodeId}
    (hwalk : g.walkFrom root gate [] = before ++ id :: after)
    (hacyclic : ∀ x ∈ g.walkFrom root gate [], ¬ Relation.TransGen (g.FedBy root gate) x x)
    (hm : g.FedBy root gate id m) : m ∈ before := by
  obtain ⟨_, hv⟩ := g.visits_walkFrom root gate
  rw [← leads_nil_iff] at hacyclic
  have hready := hv.ready hacyclic
  rw [hwalk] at hready
  exact (hready.mem_before hm).resolve_left List.not_mem_nil

/-! ### Walks with and without keywords -/

variable {slots : Option (List SlotId)} {keywords : Option KeywordSet}

theorem fedBy_of_gated (h : g.FedBy root ⟨slots, keywords⟩ id m) :
    g.FedBy root ⟨slots, none⟩ id m := by
  obtain ⟨slot, hslot, hsource⟩ := fedBy_iff.1 h
  obtain ⟨n, hn, hin, hwanted⟩ := mem_followed_iff.1 hslot
  refine fedBy_iff.2 ⟨slot, mem_followed_iff.2 ⟨n, hn, ?_, hwanted⟩, hsource⟩
  exact Node.mem_inputs_of_mem_inputsUnder hin

/-- **Keywords only leave nodes out.** -/
theorem mem_walkFrom_of_gated (h : id ∈ g.walkFrom root ⟨slots, keywords⟩ []) :
    id ∈ g.walkFrom root ⟨slots, none⟩ [] := by
  rw [mem_walkFrom_iff] at h ⊢
  exact Relation.ReflTransGen.mono (fun _ _ => fedBy_of_gated) _ _ h

end MaterialGraph

end PassForge
