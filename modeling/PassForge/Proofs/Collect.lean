import PassForge.Proofs.Scope

/-!
# What a walk adds to a list

A walk extends a list of nodes, which it takes as met.  What it adds are the nodes that its root
reaches, against the edges it follows, on a path outside the list; the graph may have circles.

The edges a walk follows are given by `Follows`, apart from how the walk looks them up: an edge ends
in an input that counts under the keywords, and at the root in one that is asked for.
`fedBy_iff_exists_follows` says that the walk sees these edges and no others.

`collect_reachable` says all that a walk does to its list: what it adds, in what order, and, unless
the nodes that are added feed each other in a circle, that a node comes after all that feed it.
-/

namespace PassForge

/-! ### Followed edges -/

/-- A slot of a node counts: it is an input and, if keywords are given and the node has switches,
one of them has chosen it or none leads to it. -/
def Node.Counts (n : Node) (keywords : Option KeywordSet) (slot : SlotId) : Prop :=
  (∃ s ∈ n.slots, s.direction = .input ∧ s.id = slot) ∧
    ∀ active ∈ keywords, ∀ switches ∈ n.switches,
      (∃ s ∈ switches, s.selected active = some slot) ∨
        ∀ s ∈ switches, ∀ r ∈ s.routes, r.slot ≠ slot

theorem Node.mem_inputs_iff {n : Node} {slot : SlotId} :
    slot ∈ n.inputs.map Slot.id ↔ ∃ s ∈ n.slots, s.direction = .input ∧ s.id = slot := by
  simp [inputs, Slot.isInput, and_assoc]

theorem Node.follows_iff {switches : List Switch} {active : KeywordSet} {slot : SlotId} :
    follows switches active slot = true ↔
      (∃ s ∈ switches, s.selected active = some slot) ∨
        ∀ s ∈ switches, ∀ r ∈ s.routes, r.slot ≠ slot := by
  have hnone : (switches.filter (·.leadsTo slot)).isEmpty = true ↔
      ∀ s ∈ switches, ∀ r ∈ s.routes, r.slot ≠ slot := by
    simp [Switch.leadsTo]
  have hsome : (switches.filter (·.leadsTo slot)).any (·.selected active == some slot) = true ↔
      ∃ s ∈ switches, s.selected active = some slot := by
    rw [List.any_eq_true]
    constructor
    · rintro ⟨s, hs, hselected⟩
      exact ⟨s, (List.mem_filter.1 hs).1, eq_of_beq hselected⟩
    · rintro ⟨s, hs, hselected⟩
      exact ⟨s, List.mem_filter.2 ⟨hs, Switch.leadsTo_of_selected hselected⟩,
        beq_iff_eq.2 hselected⟩
  rw [follows, Bool.or_eq_true, hnone, hsome, or_comm]

theorem Node.mem_inputsUnder_iff {n : Node} {keywords : Option KeywordSet} {slot : SlotId} :
    slot ∈ n.inputsUnder keywords ↔ n.Counts keywords slot := by
  unfold Counts
  rw [← mem_inputs_iff]
  cases keywords with
  | none => simp [inputsUnder]
  | some active =>
    unfold inputsUnder inputsFor
    cases n.switches with
    | none => simp
    | some switches =>
      simp only [List.mem_filter, follows_iff, Option.mem_def, Option.some.injEq, forall_eq']

theorem Wiring.source?_eq_some_iff {w : Wiring} {target source : SlotRef} :
    w.source? target = some source ↔ ⟨target, source⟩ ∈ w.edges := by
  constructor
  · intro h
    obtain ⟨e, he, rfl⟩ := Option.map_eq_some_iff.1 h
    have htarget : e.target = target := by simpa using List.find?_some he
    exact htarget ▸ List.mem_of_find?_eq_some he
  · intro hmem
    have hfound : (w.edges.find? (·.target == target)).isSome := by
      rw [List.find?_isSome]
      exact ⟨_, hmem, beq_self_eq_true _⟩
    obtain ⟨e, he⟩ := Option.isSome_iff_exists.1 hfound
    -- no other edge ends there
    have heq : e = ⟨target, source⟩ := by
      have htarget : e.target = target := by simpa using List.find?_some he
      exact List.inj_on_of_nodup_map w.distinct (List.mem_of_find?_eq_some he) hmem htarget
    rw [source?, he, heq]
    rfl

namespace MaterialGraph

variable {g : MaterialGraph} {root id m : NodeId} {gate : Gate}

/-- An edge is followed: it ends in an input that counts, and at the root in one that is asked
for. -/
structure Follows (g : MaterialGraph) (root : NodeId) (gate : Gate) (e : Edge) : Prop where
  edge : e ∈ g.wiring.edges
  counts : ∃ n, g.node? e.target.node = some n ∧ n.Counts gate.keywords e.target.slot
  wanted : e.target.node = root → ∀ slots ∈ gate.rootSlots, e.target.slot ∈ slots

/-- **A walk sees the followed edges and no others.** -/
theorem fedBy_iff_exists_follows : g.FedBy root gate id m ↔
    ∃ e, g.Follows root gate e ∧ e.target.node = id ∧ e.source.node = m := by
  rw [fedBy_iff]
  constructor
  · rintro ⟨slot, hslot, source, hsource, rfl⟩
    obtain ⟨n, hn, hin, hwanted⟩ := mem_followed_iff.1 hslot
    exact ⟨⟨⟨id, slot⟩, source⟩, ⟨Wiring.source?_eq_some_iff.1 hsource,
      ⟨n, hn, Node.mem_inputsUnder_iff.1 hin⟩, hwanted⟩, rfl, rfl⟩
  · rintro ⟨⟨⟨id, slot⟩, source⟩, ⟨hedge, ⟨n, hn, hcounts⟩, hwanted⟩, rfl, rfl⟩
    exact ⟨slot, mem_followed_iff.2 ⟨n, hn, Node.mem_inputsUnder_iff.2 hcounts, hwanted⟩, source,
      Wiring.source?_eq_some_iff.2 hedge, rfl⟩

/-! ### The nodes that are added -/

/-- A circle through a closed collection of items stays in it. -/
theorem transGen_restrict {α : Type} {step : α → α → Prop} {p : α → Prop}
    (hclosed : ∀ a b, p a → step a b → p b) {a b : α} (ha : p a)
    (h : Relation.TransGen step a b) :
    p b ∧ Relation.TransGen (fun a b => p a ∧ p b ∧ step a b) a b := by
  induction h with
  | single hstep =>
    have hb := hclosed _ _ ha hstep
    exact ⟨hb, .single ⟨ha, hb, hstep⟩⟩
  | tail _ hstep ih =>
    have hc := hclosed _ _ ih.1 hstep
    exact ⟨hc, .tail ih.2 ⟨ih.1, hc, hstep⟩⟩

/-- If the nodes that are added do not feed each other in a circle, each stands after all that feed
it. -/
theorem mem_before_of_visits {initial new met' before after : List NodeId}
    (hv : DepthFirst.Visits (g.feeders root gate) initial [root] new met')
    (hacyclic : ∀ x, ¬ Relation.TransGen
      (fun a b => a ∈ new ∧ b ∈ new ∧ g.FedBy root gate a b) x x)
    (hnew : new = before ++ id :: after) (hm : g.FedBy root gate id m) :
    m ∈ initial ∨ m ∈ before := by
  have hclosed : ∀ a b, a ∈ new → DepthFirst.Leads (g.feeders root gate) initial a b → b ∈ new :=
    fun a b ha hab => (hv.mem_met'.1 (hv.mem_met'_of_mem_next ha hab.1)).resolve_left hab.2
  have hready := hv.ready fun x hx hcircle => by
    obtain ⟨-, hrestricted⟩ := transGen_restrict hclosed hx hcircle
    exact hacyclic x (Relation.TransGen.mono
      (fun _ _ hab => ⟨hab.1, hab.2.1, hab.2.2.1⟩) _ _ hrestricted)
  rw [hnew] at hready
  exact hready.mem_before hm

/-- **A walk adds what its root reaches, in the order of evaluation.**  From a root that exists, and
for a list without repetitions: the list is kept as it is, and no node is added twice or added
though it was there; the nodes added are those that the root reaches along followed edges on a path
outside the list; and the root, unless it was there, comes last.  If the nodes added do not feed
each other in a circle, then every node added stands after all nodes that feed it through a followed
edge. -/
theorem collect_reachable (g : MaterialGraph) (root : NodeId) (gate : Gate)
    (hroot : (g.node? root).isSome) {initial : List NodeId} (hinitial : initial.Nodup) :
    ∃ new, g.collect root gate initial = .ok (initial ++ new) ∧ (initial ++ new).Nodup ∧
      (∀ id, id ∈ new ↔ root ∉ initial ∧ Relation.ReflTransGen
        (fun a b => b ∉ initial ∧
          ∃ e, g.Follows root gate e ∧ e.target.node = a ∧ e.source.node = b) root id) ∧
      (root ∉ initial → (initial ++ new).getLast? = some root) ∧
      ((∀ x, ¬ Relation.TransGen (fun a b => a ∈ new ∧ b ∈ new ∧
          ∃ e, g.Follows root gate e ∧ e.target.node = a ∧ e.source.node = b) x x) →
        ∀ before id after, initial ++ new = before ++ id :: after → id ∈ new →
          ∀ e, g.Follows root gate e → e.target.node = id → e.source.node ∈ before) := by
  obtain ⟨n, hn⟩ := Option.isSome_iff_exists.1 hroot
  obtain ⟨new, met', hv, hwalk⟩ := g.exists_visits_walkFrom root gate initial
  have hapart : ∀ a ∈ initial, ∀ b ∈ new, a ≠ b := by
    rintro a ha b hb rfl
    exact hv.not_mem_met hb ha
  simp only [← fedBy_iff_exists_follows]
  refine ⟨new, ?_, List.nodup_append.2 ⟨hinitial, hv.nodup, hapart⟩, fun id => ?_, fun hnot => ?_,
    fun hacyclic before id after hsplit hid e he htarget => ?_⟩
  · rw [collect, node_eq_ok_iff.2 hn, hwalk]
    rfl
  · have hsteps : (fun a b => b ∉ initial ∧ g.FedBy root gate a b) =
        DepthFirst.Leads (g.feeders root gate) initial := by
      funext a b
      exact propext and_comm
    rw [hv.mem_iff, hsteps]
    simp only [List.mem_singleton, exists_eq_left]
  · obtain ⟨before, rfl⟩ := hv.exists_eq_append_singleton hnot
    rw [← List.append_assoc, List.getLast?_concat]
  · have hm : g.FedBy root gate id e.source.node :=
      fedBy_iff_exists_follows.2 ⟨e, he, htarget, rfl⟩
    rcases of_append_eq_append_cons hsplit with ⟨after', hold⟩ | ⟨before', rfl, hnew⟩
    · -- a node that is added was not there before
      exact absurd rfl (hapart id (hold ▸ List.mem_append_right _ List.mem_cons_self) id hid)
    · rcases mem_before_of_visits hv hacyclic hnew hm with hmem | hmem
      · exact List.mem_append_left _ hmem
      · exact List.mem_append_right _ hmem

/-- In snow, with the tint of `stone` met before: its detail is added before the layer that it
feeds, and the root last. -/
theorem collect_reachable_stone :
    (stone.node? ⟨4, 1⟩).isSome ∧ [(⟨1, 3⟩ : NodeId)].Nodup ∧
    ∃ before after, stone.collect ⟨4, 1⟩ ⟨some [0], some (.ofList ["SNOW"])⟩ [⟨1, 3⟩] =
        .ok (before ++ ⟨3, 1⟩ :: after) ∧
      ⟨2, 1⟩ ∈ before ∧ (before ++ ⟨3, 1⟩ :: after).getLast? = some ⟨4, 1⟩ := by
  have hroot : (stone.node? ⟨4, 1⟩).isSome := by decide
  have hnodup : [(⟨1, 3⟩ : NodeId)].Nodup := by decide
  obtain ⟨new, hcollect, -, hreached, hlast, hbefore⟩ :=
    collect_reachable stone ⟨4, 1⟩ ⟨some [0], some (.ofList ["SNOW"])⟩ hroot hnodup
  have hcolor : stone.Follows ⟨4, 1⟩ ⟨some [0], some (.ofList ["SNOW"])⟩
      ⟨⟨⟨4, 1⟩, 0⟩, ⟨⟨3, 1⟩, 2⟩⟩ :=
    ⟨by decide, ⟨_, rfl, Node.mem_inputsUnder_iff.1 (by decide)⟩, by simp⟩
  have hdetail : stone.Follows ⟨4, 1⟩ ⟨some [0], some (.ofList ["SNOW"])⟩
      ⟨⟨⟨3, 1⟩, 1⟩, ⟨⟨2, 1⟩, 2⟩⟩ :=
    ⟨by decide, ⟨_, rfl, Node.mem_inputsUnder_iff.1 (by decide)⟩, by decide⟩
  have hlayer : ⟨3, 1⟩ ∈ new := (hreached ⟨3, 1⟩).2
    ⟨by decide, .single ⟨by decide, _, hcolor, rfl, rfl⟩⟩
  obtain ⟨before, after, rfl⟩ := List.append_of_mem hlayer
  rw [← List.append_assoc] at hcollect hlast
  refine ⟨hroot, hnodup, [⟨1, 3⟩] ++ before, after, hcollect, ?_, hlast (by decide)⟩
  refine hbefore (fun x hcircle => ?_) _ _ _ (List.append_assoc _ _ _).symm hlayer _ hdetail rfl
  have hfed : Relation.TransGen
      (stone.FedBy ⟨4, 1⟩ ⟨some [0], some (.ofList ["SNOW"])⟩) x x :=
    Relation.TransGen.mono (fun _ _ hab => fedBy_iff_exists_follows.2 hab.2.2) _ _ hcircle
  exact not_transGen_of_index_lt (by decide) hfed

end MaterialGraph

end PassForge
