import PassForge.Proofs.GraphStore

/-!
# What a graph keeps to

The walk over a graph and the code that is written from it take for granted that edges have their
ends, and that nodes can be told apart by their serials.  Both hold of every graph that was built
step by step, whatever the steps and whichever of them were refused.

* `Arena.Spent`: the key of an item that was removed.  Its place has moved on to a later version, or
  will with the next item, so a spent key stays spent and never finds an item again.
* `MaterialGraph.Consistent`: edges lead from outputs to inputs of other nodes, and serials are
  distinct and below the next one.  Every operation keeps this (`consistent_apply`).
* `MaterialGraph.store_invariant`: both for all graphs built step by step, and what each operation
  leaves alone.

Serials and versions are natural numbers here and never start over.
-/

namespace PassForge

/-! ### Keys of removed items -/

namespace Arena

variable {α : Type} {a : Arena α} {k k' : Key} {x : α}

/-- The item of a key was removed: its place is empty since, or was taken over at a later
version. -/
def Spent (a : Arena α) (k : Key) : Prop :=
  ∃ p c, k.index = p + 1 ∧ a.cells[p]? = some c ∧
    (k.version < c.version ∨ k.version = c.version ∧ c.content = none)

theorem Spent.get?_eq_none (h : a.Spent k) : a.get? k = none := by
  obtain ⟨p, c, hindex, hc, hspent⟩ := h
  rw [Option.eq_none_iff_forall_ne_some]
  intro x hx
  obtain ⟨q, hq, hcell⟩ := get?_eq_some_iff.1 hx
  obtain rfl : p = q := by omega
  rw [hc] at hcell
  injection hcell with hcell
  subst hcell
  rcases hspent with hlt | ⟨-, hnone⟩
  · exact absurd hlt (Nat.lt_irrefl _)
  · cases hnone

theorem spent_erase (h : a.get? k = some x) : (a.erase k).Spent k := by
  obtain ⟨p, hindex, hc⟩ := get?_eq_some_iff.1 h
  have hp := (List.getElem?_eq_some_iff.1 hc).1
  have hpos : k.index - 1 = p := by omega
  refine ⟨p, ⟨k.version, none⟩, hindex, ?_, .inr ⟨rfl, rfl⟩⟩
  unfold erase
  rw [h]
  simp only [hpos]
  exact List.getElem?_set_self hp

/-- An item that is added does not bring a spent key back: a place is taken over at a later
version. -/
theorem Spent.insert (h : a.Spent k) : (a.insert x).2.Spent k := by
  obtain ⟨p, c, hindex, hc, hspent⟩ := h
  have hp := (List.getElem?_eq_some_iff.1 hc).1
  unfold Arena.insert
  cases a.free with
  | nil => exact ⟨p, c, hindex, by simp only [List.getElem?_append_left hp, hc], hspent⟩
  | cons q free =>
    by_cases hqp : q = p
    · subst hqp
      refine ⟨q, _, hindex, List.getElem?_set_self hp, .inl ?_⟩
      simp only [hc, Option.map_some, Option.getD_some]
      omega
    · exact ⟨p, c, hindex, by simp only [List.getElem?_set_ne hqp, hc], hspent⟩

/-- Nor does an item that is removed: the version of its place stays. -/
theorem Spent.erase (h : a.Spent k) : (a.erase k').Spent k := by
  unfold Arena.erase
  cases hk : a.get? k' with
  | none => exact h
  | some x =>
    obtain ⟨p, c, hindex, hc, hspent⟩ := h
    have hp := (List.getElem?_eq_some_iff.1 hc).1
    obtain ⟨q, hindex', hcell⟩ := get?_eq_some_iff.1 hk
    have hq : k'.index - 1 = q := by omega
    rw [hq]
    by_cases hqp : q = p
    · subst hqp
      rw [hc] at hcell
      injection hcell with hcell
      subst hcell
      refine ⟨q, _, hindex, List.getElem?_set_self hp, ?_⟩
      rcases hspent with hlt | ⟨-, hnone⟩
      · exact .inl hlt
      · cases hnone
    · exact ⟨p, c, hindex, by simp only [List.getElem?_set_ne hqp, hc], hspent⟩

theorem get?_key_insert (h : a.Sound) : a.get? (a.insert x).1 = none := by
  rw [Option.eq_none_iff_forall_ne_some]
  intro y hy
  obtain ⟨p, hindex, hc⟩ := get?_eq_some_iff.1 hy
  unfold insert at hindex hc
  cases hfree : a.free with
  | nil =>
    rw [hfree] at hindex hc
    have hp := (List.getElem?_eq_some_iff.1 hc).1
    simp only at hindex
    omega
  | cons q free =>
    rw [hfree] at hindex hc
    obtain ⟨c, hq, hempty⟩ := h.free_empty q (by rw [hfree]; exact List.mem_cons_self)
    obtain rfl : q = p := Nat.succ.inj hindex
    rw [hq] at hc
    rw [Option.some.inj hc] at hempty
    cases hempty

end Arena

/-! ### Edges after an operation -/

/-- An edge starts or ends at a node. -/
def Edge.Touches (e : Edge) (id : NodeId) : Prop := e.source.node = id ∨ e.target.node = id

namespace Wiring

variable {w : Wiring} {e e' : Edge}

theorem mem_erase_iff {target : SlotRef} :
    e ∈ (w.erase target).edges ↔ e ∈ w.edges ∧ e.target ≠ target := by
  simp [erase, filter]

theorem mem_insert_iff :
    e ∈ (w.insert e').edges ↔ e = e' ∨ e ∈ w.edges ∧ e.target ≠ e'.target := by
  simp only [insert, List.mem_cons, mem_erase_iff]

theorem mem_eraseNode_iff {id : NodeId} :
    e ∈ (w.eraseNode id).edges ↔ e ∈ w.edges ∧ ¬ e.Touches id := by
  simp [eraseNode, filter, Edge.Touches, and_comm]

end Wiring

namespace MaterialGraph

variable {g g' : MaterialGraph} {id id' : NodeId} {n m : Node} {source target : SlotRef} {e : Edge}

/-! ### Nodes after an operation -/

theorem node?_addNode_eq_some_iff (h : g.nodes.Sound) : (g.addNode n).2.node? id = some m ↔
    id = (g.addNode n).1 ∧ m = { n with serial := g.nextSerial } ∨ g.node? id = some m :=
  Arena.get?_insert_eq_some_iff h

theorem node?_removeNode_eq_some_iff :
    (g.removeNode id).node? id' = some m ↔ id' ≠ id ∧ g.node? id' = some m := by
  unfold removeNode
  cases hn : g.node? id with
  | none =>
    refine ⟨fun h => ⟨?_, h⟩, fun h => h.2⟩
    rintro rfl
    cases hn.symm.trans h
  | some n => exact Arena.get?_erase_eq_some_iff

/-- Connecting changes nothing, or puts the edge in place of the one into the same input. -/
theorem apply_connect_cases (g : MaterialGraph) (source target : SlotRef) :
    g.apply (.connect source target) = g ∨ source.node ≠ target.node ∧
      g.apply (.connect source target) =
        { g with wiring := g.wiring.insert ⟨target, source⟩ } := by
  simp only [apply]
  cases hconnect : g.connect source target with
  | error _ => exact .inl rfl
  | ok g' =>
    obtain ⟨-, -, hne, heq⟩ := connect_eq_ok_iff.1 hconnect
    exact .inr ⟨hne, heq⟩

/-! ### The invariant -/

/-- Edges lead from outputs to inputs of other nodes, and nodes are told apart by serials below the
next one. -/
structure Consistent (g : MaterialGraph) : Prop where
  wired : g.Wired
  apart : ∀ e ∈ g.wiring.edges, e.source.node ≠ e.target.node
  serial_lt : ∀ id n, g.node? id = some n → n.serial < g.nextSerial
  serial_inj : ∀ id id' n n', g.node? id = some n → g.node? id' = some n' →
    n.serial = n'.serial → id = id'

theorem consistent_empty : empty.Consistent where
  wired := wired_build []
  apart := fun _ he => absurd he List.not_mem_nil
  serial_lt := fun id n hn => by
    obtain ⟨p, -, hc⟩ := Arena.get?_eq_some_iff.1 hn
    cases hc
  serial_inj := fun id _ n _ hn => by
    obtain ⟨p, -, hc⟩ := Arena.get?_eq_some_iff.1 hn
    cases hc

theorem Consistent.addNode (h : g.Consistent) (n : Node) : (g.addNode n).2.Consistent := by
  have hnode : ∀ id m, (g.addNode n).2.node? id = some m →
      id = (g.addNode n).1 ∧ m = { n with serial := g.nextSerial } ∨ g.node? id = some m :=
    fun id m hm => (node?_addNode_eq_some_iff h.wired.arena).1 hm
  refine ⟨wired_addNode h.wired n, h.apart, fun id m hm => ?_, fun id id' m m' hm hm' hserial => ?_⟩
  · show m.serial < g.nextSerial + 1
    rcases hnode id m hm with ⟨-, rfl⟩ | hold
    · exact Nat.lt_succ_self _
    · exact Nat.lt_succ_of_lt (h.serial_lt id m hold)
  · rcases hnode id m hm with ⟨rfl, rfl⟩ | hold <;> rcases hnode id' m' hm' with ⟨rfl, rfl⟩ | hold'
    · rfl
    · exact absurd (h.serial_lt id' m' hold') (by rw [← hserial]; exact Nat.lt_irrefl _)
    · exact absurd (h.serial_lt id m hold) (by rw [hserial]; exact Nat.lt_irrefl _)
    · exact h.serial_inj id id' m m' hold hold' hserial

/-- With fewer nodes and edges, nothing new can go wrong. -/
theorem Consistent.shrink (h : g.Consistent) (hwired : g'.Wired)
    (hserial : g'.nextSerial = g.nextSerial)
    (hnode : ∀ id n, g'.node? id = some n → g.node? id = some n)
    (hedge : ∀ e ∈ g'.wiring.edges, e ∈ g.wiring.edges ∨ e.source.node ≠ e.target.node) :
    g'.Consistent where
  wired := hwired
  apart := fun e he => (hedge e he).elim (h.apart e) fun hne => hne
  serial_lt := fun id n hn => hserial ▸ h.serial_lt id n (hnode id n hn)
  serial_inj := fun id id' n n' hn hn' =>
    h.serial_inj id id' n n' (hnode id n hn) (hnode id' n' hn')

theorem mem_edges_removeNode_iff (h : g.Wired) :
    e ∈ (g.removeNode id).wiring.edges ↔ e ∈ g.wiring.edges ∧ ¬ e.Touches id := by
  unfold removeNode
  cases hn : g.node? id with
  | none =>
    -- no edge touches a node that does not exist
    refine ⟨fun he => ⟨he, ?_⟩, fun he => he.1⟩
    rintro (rfl | rfl)
    · obtain ⟨n, _, hsource, -⟩ := h.source e he
      cases hn.symm.trans hsource
    · obtain ⟨n, _, htarget, -⟩ := h.target e he
      cases hn.symm.trans htarget
  | some n => exact Wiring.mem_eraseNode_iff

/-- **Every operation keeps a graph consistent**, whether it is refused or not. -/
theorem consistent_apply (h : g.Consistent) (step : GraphStep) : (g.apply step).Consistent := by
  have hwired := wired_apply h.wired step
  cases step with
  | add n => exact h.addNode n
  | remove id =>
    refine h.shrink hwired ?_ (fun id' m hm => (node?_removeNode_eq_some_iff.1 hm).2)
      fun e he => .inl ((mem_edges_removeNode_iff h.wired).1 he).1
    simp only [apply, removeNode]
    cases g.node? id <;> rfl
  | connect source target =>
    rcases apply_connect_cases g source target with heq | ⟨hne, heq⟩
    · rw [heq]
      exact h
    · rw [heq] at hwired ⊢
      refine h.shrink hwired rfl (fun id m hm => hm) fun e he => ?_
      rcases Wiring.mem_insert_iff.1 he with rfl | ⟨hold, -⟩
      · exact .inr hne
      · exact .inl hold
  | disconnect target =>
    exact h.shrink hwired rfl (fun id m hm => hm) fun e he => .inl (Wiring.mem_erase_iff.1 he).1

theorem consistent_foldl (h : g.Consistent) (steps : List GraphStep) :
    (steps.foldl apply g).Consistent := by
  induction steps generalizing g with
  | nil => exact h
  | cons step rest ih => exact ih (consistent_apply h step)

/-- **A graph built step by step is consistent.** -/
theorem consistent_build (steps : List GraphStep) : (build steps).Consistent :=
  consistent_foldl consistent_empty steps

/-! ### Removed nodes -/

theorem spent_apply (h : g.nodes.Spent id) (step : GraphStep) : (g.apply step).nodes.Spent id := by
  cases step with
  | add n => exact h.insert
  | remove id' =>
    simp only [apply, removeNode]
    cases g.node? id' with
    | none => exact h
    | some n => exact h.erase
  | connect source target =>
    rcases apply_connect_cases g source target with heq | ⟨-, heq⟩
    · rw [heq]
      exact h
    · rw [heq]
      exact h
  | disconnect target => exact h

theorem spent_foldl (h : g.nodes.Spent id) (steps : List GraphStep) :
    (steps.foldl apply g).nodes.Spent id := by
  induction steps generalizing g with
  | nil => exact h
  | cons step rest ih => exact ih (spent_apply h step)

/-- The key of a node that was removed stays spent, whatever is done afterwards. -/
theorem spent_build_of_remove {before : List GraphStep} (after : List GraphStep)
    (h : (build before).node? id = some n) :
    (build (before ++ .remove id :: after)).nodes.Spent id := by
  have hremoved : ((build before).removeNode id).nodes.Spent id := by
    unfold removeNode
    rw [h]
    exact Arena.spent_erase h
  rw [build, List.foldl_append, List.foldl_cons]
  exact spent_foldl hremoved after

theorem Wired.not_touches (h : g.Wired) (hnode : g.node? id = none) :
    ∀ e ∈ g.wiring.edges, ¬ e.Touches id := by
  intro e he
  -- removing such a key changes nothing
  have hkept : e ∈ (g.removeNode id).wiring.edges := by rwa [removeNode, hnode]
  exact ((mem_edges_removeNode_iff h).1 hkept).2

/-- **What a graph keeps to.**  After any operations, refused or not: every edge leads from an
output to an input of another node; nodes have distinct serials below the next one; a key whose node
was removed finds none any more and no edge touches it; and a node that is added gets a key that no
edge touches.  Connecting succeeds if both ends exist on different nodes, and otherwise changes
nothing; connecting and disconnecting change the edge into the one input only, and removing a node
takes away the edges that touch it and no others. -/
theorem store_invariant (steps : List GraphStep) :
    (∀ e ∈ (build steps).wiring.edges, (build steps).HasSlot e.source .output ∧
      (build steps).HasSlot e.target .input ∧ e.source.node ≠ e.target.node) ∧
    (∀ id n, (build steps).node? id = some n → n.serial < (build steps).nextSerial ∧
      ∀ id' n', (build steps).node? id' = some n' → n.serial = n'.serial → id = id') ∧
    (∀ before id after, steps = before ++ .remove id :: after →
      ((build before).node? id).isSome → (build steps).node? id = none ∧
        ∀ e ∈ (build steps).wiring.edges, ¬ e.Touches id) ∧
    (∀ n, (build steps).node? ((build steps).addNode n).1 = none ∧
      ((build steps).addNode n).2.node? ((build steps).addNode n).1 =
        some { n with serial := (build steps).nextSerial } ∧
      ∀ e ∈ ((build steps).addNode n).2.wiring.edges,
        ¬ e.Touches ((build steps).addNode n).1) ∧
    (∀ source target,
      ((∃ g', (build steps).connect source target = .ok g') ↔
        (build steps).HasSlot source .output ∧ (build steps).HasSlot target .input ∧
          source.node ≠ target.node) ∧
      (∀ g', (build steps).connect source target = .ok g' → ∀ e, e ∈ g'.wiring.edges ↔
        e = ⟨target, source⟩ ∨ e ∈ (build steps).wiring.edges ∧ e.target ≠ target) ∧
      (∀ error, (build steps).connect source target = .error error →
        (build steps).apply (.connect source target) = build steps) ∧
      (∀ e, e.target ≠ target → (e ∈ ((build steps).apply (.connect source target)).wiring.edges ↔
        e ∈ (build steps).wiring.edges)) ∧
      ∀ id, ((build steps).apply (.connect source target)).node? id = (build steps).node? id) ∧
    (∀ target,
      (∀ e, e ∈ ((build steps).apply (.disconnect target)).wiring.edges ↔
        e ∈ (build steps).wiring.edges ∧ e.target ≠ target) ∧
      ∀ id, ((build steps).apply (.disconnect target)).node? id = (build steps).node? id) ∧
    ∀ id,
      (∀ e, e ∈ ((build steps).apply (.remove id)).wiring.edges ↔
        e ∈ (build steps).wiring.edges ∧ ¬ e.Touches id) ∧
      ∀ id' n, ((build steps).apply (.remove id)).node? id' = some n ↔
        id' ≠ id ∧ (build steps).node? id' = some n := by
  have h := consistent_build steps
  refine ⟨fun e he => ⟨h.wired.source e he, h.wired.target e he, h.apart e he⟩,
    fun id n hn => ⟨h.serial_lt id n hn, fun id' n' hn' => h.serial_inj id id' n n' hn hn'⟩,
    ?_, fun n => ?_, fun source target => ⟨?_, ?_, ?_, ?_, ?_⟩, fun target => ⟨?_, fun id => rfl⟩,
    fun id => ⟨fun e => mem_edges_removeNode_iff h.wired,
      fun id' n => node?_removeNode_eq_some_iff⟩⟩
  · rintro before id after rfl hlive
    obtain ⟨n, hn⟩ := Option.isSome_iff_exists.1 hlive
    have hgone := (spent_build_of_remove after hn).get?_eq_none
    exact ⟨hgone, h.wired.not_touches hgone⟩
  · have hfresh : (build steps).node? ((build steps).addNode n).1 = none :=
      Arena.get?_key_insert h.wired.arena
    exact ⟨hfresh, (node?_addNode_eq_some_iff h.wired.arena).2 (.inl ⟨rfl, rfl⟩),
      h.wired.not_touches hfresh⟩
  · constructor
    · rintro ⟨g', hconnect⟩
      obtain ⟨hsource, htarget, hne, -⟩ := connect_eq_ok_iff.1 hconnect
      exact ⟨hsource, htarget, hne⟩
    · rintro ⟨hsource, htarget, hne⟩
      exact ⟨_, connect_eq_ok_iff.2 ⟨hsource, htarget, hne, rfl⟩⟩
  · intro g' hconnect e
    obtain ⟨-, -, -, rfl⟩ := connect_eq_ok_iff.1 hconnect
    exact Wiring.mem_insert_iff
  · intro error herror
    simp only [apply, herror]
  · intro e hne
    rcases apply_connect_cases (build steps) source target with heq | ⟨-, heq⟩
    · rw [heq]
    · rw [heq, Wiring.mem_insert_iff]
      constructor
      · rintro (rfl | ⟨hold, -⟩)
        · exact absurd rfl hne
        · exact hold
      · exact fun hold => .inr ⟨hold, hne⟩
  · intro id
    rcases apply_connect_cases (build steps) source target with heq | ⟨-, heq⟩
    · rw [heq]
    · rw [heq]
      rfl
  · exact fun e => Wiring.mem_erase_iff

/-- The first tint of `stone` was removed before anything else was added; its place is taken again,
but its key finds nothing, and no edge touches it.  A node that is fed by itself is refused. -/
theorem store_invariant_stone :
    (build (stoneSteps.take 1)).node? ⟨1, 1⟩ ≠ none ∧ stone.node? ⟨1, 3⟩ ≠ none ∧
    stone.node? ⟨1, 1⟩ = none ∧ (∀ e ∈ stone.wiring.edges, ¬ e.Touches ⟨1, 1⟩) ∧
    stone.wiring.edges ≠ [] ∧
    stone.connect ⟨⟨3, 1⟩, 2⟩ ⟨⟨3, 1⟩, 0⟩ = .error (.selfFeed ⟨3, 1⟩) ∧
    stone.apply (.connect ⟨⟨3, 1⟩, 2⟩ ⟨⟨3, 1⟩, 0⟩) = stone := by
  have hlive : ((build (stoneSteps.take 1)).node? ⟨1, 1⟩).isSome := by decide
  have hself : stone.connect ⟨⟨3, 1⟩, 2⟩ ⟨⟨3, 1⟩, 0⟩ = .error (.selfFeed ⟨3, 1⟩) := by rfl
  obtain ⟨-, -, hremoved, -, hconnect, -, -⟩ := store_invariant stoneSteps
  obtain ⟨hgone, hedges⟩ := hremoved (stoneSteps.take 1) ⟨1, 1⟩ (stoneSteps.drop 2) rfl hlive
  obtain ⟨-, -, hrefused, -, -⟩ := hconnect ⟨⟨3, 1⟩, 2⟩ ⟨⟨3, 1⟩, 0⟩
  have hreused : (stone.node? ⟨1, 3⟩).isSome := by decide
  refine ⟨Option.isSome_iff_ne_none.1 hlive, Option.isSome_iff_ne_none.1 hreused, hgone, hedges,
    by decide, hself, hrefused _ hself⟩

end MaterialGraph

end PassForge
