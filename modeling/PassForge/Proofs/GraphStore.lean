import Mathlib.Data.List.Permutation
import PassForge.Proofs.Walk

/-!
# Graphs built step by step

A graph is built from the empty one by adding and removing nodes, connecting and disconnecting slots
(`GraphStep`, `MaterialGraph.build`); an operation that is refused leaves the graph as it is.  In a
graph built that way every edge leads from an existing output to an existing input
(`MaterialGraph.wired_build`).

The arena makes this work: a key that has been given out finds its item until it is removed, and
never another one (`Arena.get?_insert_eq_some_iff`, `Arena.get?_erase_eq_some_iff`).
-/

namespace PassForge

/-! ### Arenas -/

namespace Arena

variable {α : Type} {a : Arena α} {k : Key} {x : α}

/-- The freed places of an arena are empty, and each is free once. -/
structure Sound (a : Arena α) : Prop where
  free_nodup : a.free.Nodup
  free_empty : ∀ p ∈ a.free, ∃ c, a.cells[p]? = some c ∧ c.content = none

theorem sound_empty : Sound (empty : Arena α) :=
  ⟨List.nodup_nil, fun _ hp => absurd hp List.not_mem_nil⟩

theorem get?_eq_some_iff : a.get? k = some x ↔
    ∃ p, k.index = p + 1 ∧ a.cells[p]? = some ⟨k.version, some x⟩ := by
  unfold get? cell?
  cases k.index with
  | zero => simp
  | succ p =>
    simp only [Option.bind_eq_some_iff, Option.filter_eq_some_iff, beq_iff_eq,
      Nat.add_right_cancel_iff, exists_eq_left']
    constructor
    · rintro ⟨⟨version, content⟩, ⟨hc, hv⟩, hx⟩
      simp only at hv hx
      rw [hc, hv, hx]
    · intro hc
      exact ⟨_, ⟨hc, rfl⟩, rfl⟩

/-- An item that is added is found under the key given out for it, and all others as before. -/
theorem get?_insert_eq_some_iff (h : a.Sound) {y : α} : (a.insert x).2.get? k = some y ↔
    k = (a.insert x).1 ∧ y = x ∨ a.get? k = some y := by
  obtain ⟨index, version⟩ := k
  simp only [get?_eq_some_iff]
  unfold insert
  cases hfree : a.free with
  | nil =>
    simp only [Key.mk.injEq]
    constructor
    · rintro ⟨p, rfl, hc⟩
      rcases Nat.lt_trichotomy p a.cells.length with hp | rfl | hp
      · rw [List.getElem?_append_left hp] at hc
        exact .inr ⟨p, rfl, hc⟩
      · rw [List.getElem?_concat_length] at hc
        injection hc with hc
        injection hc with hv hx
        exact .inl ⟨⟨rfl, hv.symm⟩, (Option.some.inj hx).symm⟩
      · rw [List.getElem?_eq_none (by simp; omega)] at hc
        cases hc
    · rintro (⟨⟨rfl, rfl⟩, rfl⟩ | ⟨p, rfl, hc⟩)
      · exact ⟨a.cells.length, rfl, List.getElem?_concat_length⟩
      · have hp := (List.getElem?_eq_some_iff.1 hc).1
        exact ⟨p, rfl, by rw [List.getElem?_append_left hp, hc]⟩
  | cons q free =>
    obtain ⟨c, hc, hempty⟩ := h.free_empty q (by rw [hfree]; exact List.mem_cons_self)
    have hq := (List.getElem?_eq_some_iff.1 hc).1
    simp only [Key.mk.injEq]
    constructor
    · rintro ⟨p, rfl, hp⟩
      by_cases hpq : q = p
      · subst hpq
        rw [List.getElem?_set_self hq] at hp
        injection hp with hp
        injection hp with hv hx
        exact .inl ⟨⟨rfl, hv.symm⟩, (Option.some.inj hx).symm⟩
      · rw [List.getElem?_set_ne hpq] at hp
        exact .inr ⟨p, rfl, hp⟩
    · rintro (⟨⟨rfl, rfl⟩, rfl⟩ | ⟨p, rfl, hp⟩)
      · exact ⟨q, rfl, List.getElem?_set_self hq⟩
      · -- the place that is taken over was empty
        have hpq : q ≠ p := by
          rintro rfl
          rw [hc] at hp
          rw [Option.some.inj hp] at hempty
          cases hempty
        exact ⟨p, rfl, by rw [List.getElem?_set_ne hpq, hp]⟩

theorem sound_insert (h : a.Sound) : (a.insert x).2.Sound := by
  unfold insert
  cases hfree : a.free with
  | nil => exact ⟨List.nodup_nil, fun p hp => absurd hp List.not_mem_nil⟩
  | cons q free =>
    have hnodup := h.free_nodup
    rw [hfree] at hnodup
    obtain ⟨hq, hrest⟩ := List.nodup_cons.1 hnodup
    refine ⟨hrest, fun p hp => ?_⟩
    have hqp : q ≠ p := fun heq => hq (heq ▸ hp)
    simp only [List.getElem?_set_ne hqp]
    exact h.free_empty p (by rw [hfree]; exact List.mem_cons_of_mem _ hp)

theorem get?_erase_eq_some_iff {k' : Key} {y : α} :
    (a.erase k).get? k' = some y ↔ k' ≠ k ∧ a.get? k' = some y := by
  unfold erase
  cases hk : a.get? k with
  | none =>
    refine ⟨fun h => ⟨?_, h⟩, fun h => h.2⟩
    rintro rfl
    cases hk.symm.trans h
  | some x =>
    obtain ⟨q, hindex, hc⟩ := get?_eq_some_iff.1 hk
    have hq := (List.getElem?_eq_some_iff.1 hc).1
    obtain ⟨index, version⟩ := k
    obtain ⟨index', version'⟩ := k'
    simp only at hindex hc
    subst hindex
    simp only [get?_eq_some_iff, Nat.add_sub_cancel, ne_eq, Key.mk.injEq]
    constructor
    · rintro ⟨p, rfl, hp⟩
      by_cases hqp : q = p
      · subst hqp
        rw [List.getElem?_set_self hq] at hp
        cases hp
      · rw [List.getElem?_set_ne hqp] at hp
        exact ⟨fun heq => hqp (Nat.succ.inj heq.1).symm, p, rfl, hp⟩
    · rintro ⟨hne, p, rfl, hp⟩
      have hqp : q ≠ p := by
        rintro rfl
        rw [hc] at hp
        injection hp with hp
        injection hp with hv _
        exact hne ⟨rfl, hv.symm⟩
      exact ⟨p, rfl, by rw [List.getElem?_set_ne hqp, hp]⟩

theorem sound_erase (h : a.Sound) : (a.erase k).Sound := by
  unfold erase
  cases hk : a.get? k with
  | none => exact h
  | some x =>
    obtain ⟨q, hindex, hc⟩ := get?_eq_some_iff.1 hk
    have hq := (List.getElem?_eq_some_iff.1 hc).1
    have hpos : k.index - 1 = q := by omega
    have hfresh : q ∉ a.free := by
      intro hmem
      obtain ⟨c, hc', hempty⟩ := h.free_empty q hmem
      rw [hc] at hc'
      rw [← Option.some.inj hc'] at hempty
      cases hempty
    rw [hpos]
    refine ⟨List.nodup_cons.2 ⟨hfresh, h.free_nodup⟩, fun p hp => ?_⟩
    rcases List.mem_cons.1 hp with rfl | hp
    · exact ⟨_, List.getElem?_set_self hq, rfl⟩
    · have hqp : q ≠ p := fun heq => hfresh (heq ▸ hp)
      simp only [List.getElem?_set_ne hqp]
      exact h.free_empty p hp

end Arena

/-! ### Graphs -/

/-- An operation on a graph. -/
inductive GraphStep where
  /-- Adds a node. -/
  | add (node : Node)
  /-- Removes a node and the edges that touch it. -/
  | remove (id : NodeId)
  /-- Feeds an input from an output. -/
  | connect (source target : SlotRef)
  /-- Removes the edge into an input. -/
  | disconnect (target : SlotRef)
deriving Repr

namespace MaterialGraph

/-- The graph after an operation; one that is refused changes nothing. -/
def apply (g : MaterialGraph) : GraphStep → MaterialGraph
  | .add node => (g.addNode node).2
  | .remove id => g.removeNode id
  | .connect source target =>
    match g.connect source target with
    | .ok g' => g'
    | .error _ => g
  | .disconnect target => g.disconnect target

/-- The graph that a list of operations builds. -/
def build (steps : List GraphStep) : MaterialGraph := steps.foldl apply empty

/-- There is a slot of a direction. -/
def HasSlot (g : MaterialGraph) (r : SlotRef) (d : Direction) : Prop :=
  ∃ n s, g.node? r.node = some n ∧ n.slot? r.slot = some s ∧ s.direction = d

/-- Every edge of a graph leads from an output to an input. -/
structure Wired (g : MaterialGraph) : Prop where
  arena : g.nodes.Sound
  source : ∀ e ∈ g.wiring.edges, g.HasSlot e.source .output
  target : ∀ e ∈ g.wiring.edges, g.HasSlot e.target .input

variable {g g' : MaterialGraph} {r : SlotRef} {d : Direction}

theorem HasSlot.mono (h : g.HasSlot r d)
    (hnode : ∀ n, g.node? r.node = some n → g'.node? r.node = some n) : g'.HasSlot r d := by
  obtain ⟨n, s, hn, hs⟩ := h
  exact ⟨n, s, hnode n hn, hs⟩

theorem checkSlot_eq_ok_iff {u : Unit} : g.checkSlot r d = .ok u ↔ g.HasSlot r d := by
  simp only [checkSlot, bind_eq_ok_iff, node_eq_ok_iff, HasSlot]
  refine exists_congr fun n => ?_
  cases n.slot? r.slot with
  | none => simp
  | some s => by_cases hd : s.direction = d <;> simp [hd, pure_eq_ok_iff]

/-- Connecting succeeds exactly if both ends exist on different nodes.  The edge takes the place of
the one into the same input. -/
theorem connect_eq_ok_iff {source target : SlotRef} : g.connect source target = .ok g' ↔
    g.HasSlot source .output ∧ g.HasSlot target .input ∧ source.node ≠ target.node ∧
      g' = { g with wiring := g.wiring.insert ⟨target, source⟩ } := by
  simp only [connect, bind_eq_ok_iff, checkSlot_eq_ok_iff, exists_and_left, exists_const]
  by_cases hself : source.node = target.node
  · simp [hself]
  · rw [if_neg hself, pure_eq_ok_iff, @eq_comm _ g']
    simp only [ne_eq, hself, not_false_eq_true, true_and]

/-- With the same nodes, a graph stays wired if every edge is an old one or has both ends. -/
theorem Wired.rewire (h : g.Wired) (w : Wiring) (hw : ∀ e ∈ w.edges,
    e ∈ g.wiring.edges ∨ g.HasSlot e.source .output ∧ g.HasSlot e.target .input) :
    Wired { g with wiring := w } := by
  refine ⟨h.arena, fun e he => ?_, fun e he => ?_⟩
  · rcases hw e he with hold | hnew
    · exact h.source e hold
    · exact hnew.1
  · rcases hw e he with hold | hnew
    · exact h.target e hold
    · exact hnew.2

theorem wired_addNode (h : g.Wired) (n : Node) : (g.addNode n).2.Wired := by
  have hkeep : ∀ id m, g.node? id = some m → (g.addNode n).2.node? id = some m := fun id m hm =>
    (Arena.get?_insert_eq_some_iff h.arena).2 (.inr hm)
  exact ⟨Arena.sound_insert h.arena, fun e he => (h.source e he).mono (hkeep _),
    fun e he => (h.target e he).mono (hkeep _)⟩

theorem wired_removeNode (h : g.Wired) (id : NodeId) : (g.removeNode id).Wired := by
  unfold removeNode
  cases g.node? id with
  | none => exact h
  | some n =>
    have hkeep : ∀ id', id' ≠ id → ∀ m, g.node? id' = some m →
        (g.nodes.erase id).get? id' = some m :=
      fun id' hne m hm => Arena.get?_erase_eq_some_iff.2 ⟨hne, hm⟩
    refine ⟨Arena.sound_erase h.arena, fun e he => ?_, fun e he => ?_⟩
    all_goals
      obtain ⟨hold, haway⟩ := List.mem_filter.1 he
      rw [Bool.and_eq_true, bne_iff_ne, bne_iff_ne] at haway
    · exact (h.source e hold).mono (hkeep _ haway.2)
    · exact (h.target e hold).mono (hkeep _ haway.1)

theorem wired_apply (h : g.Wired) (step : GraphStep) : (g.apply step).Wired := by
  cases step with
  | add n => exact wired_addNode h n
  | remove id => exact wired_removeNode h id
  | connect source target =>
    simp only [apply]
    cases hconnect : g.connect source target with
    | error _ => exact h
    | ok g' =>
      obtain ⟨hsource, htarget, -, rfl⟩ := connect_eq_ok_iff.1 hconnect
      refine h.rewire _ fun e he => ?_
      rcases List.mem_cons.1 he with rfl | he
      · exact .inr ⟨hsource, htarget⟩
      · exact .inl (List.mem_filter.1 he).1
  | disconnect target => exact h.rewire _ fun e he => .inl (List.mem_filter.1 he).1

theorem wired_foldl (h : g.Wired) (steps : List GraphStep) : (steps.foldl apply g).Wired := by
  induction steps generalizing g with
  | nil => exact h
  | cons step rest ih => exact ih (wired_apply h step)

/-- **In a graph built step by step, every edge leads from an output to an input.** -/
theorem wired_build (steps : List GraphStep) : (build steps).Wired :=
  wired_foldl ⟨Arena.sound_empty, fun _ h => absurd h List.not_mem_nil,
    fun _ h => absurd h List.not_mem_nil⟩ steps

theorem Wired.of_source? (h : g.Wired) {target source : SlotRef}
    (hs : g.source? target = some source) : g.HasSlot source .output ∧ g.HasSlot target .input := by
  obtain ⟨e, he, rfl⟩ := Option.map_eq_some_iff.1 hs
  have htarget : e.target = target := by simpa using List.find?_some he
  have hmem := List.mem_of_find?_eq_some he
  exact ⟨h.source e hmem, htarget ▸ h.target e hmem⟩

end MaterialGraph

/-! ### A small material -/

/-- A node that passes on one of its two inputs. -/
def Node.selector (name : String) (routes : List Route) (requirements : Requirements) : Node where
  name := name
  serial := 0
  table := .ofList [⟨0, "A", .input, .float3, none⟩, ⟨1, "B", .input, .float3, none⟩,
    ⟨2, "Out", .output, .float3, none⟩]
  requirements := requirements
  code := none
  functions := []
  properties := []
  switches := some [⟨routes⟩]

/-- A node that computes a color from the first texture coordinates. -/
def Node.tint : Node where
  name := "Tint"
  serial := 0
  table := .ofList [⟨0, "Scale", .input, .float, some "1"⟩, ⟨1, "Out", .output, .float3, none⟩]
  requirements := { uv := .ofList [.uv0] }
  code := some "$Out = IN.uv0.xyx * $Scale;"
  functions := []
  properties := []
  switches := none

/-- The root of a material with a color and an offset. -/
def Node.surface : Node where
  name := "Surface"
  serial := 0
  table := .ofList [⟨0, "Color", .input, .float3, none⟩, ⟨1, "Offset", .input, .float3, none⟩]
  requirements := .none
  code := none
  functions := []
  properties := []
  switches := none

namespace MaterialGraph

/-- The operations that build `stone`; the first tint is removed, and its place is taken again. -/
def stoneSteps : List GraphStep := [
  .add .tint, .remove ⟨1, 1⟩, .add .tint,
  .add (.selector "Detail" [⟨"_", 0⟩, ⟨"WET", 1⟩] { normal := .ofBits 4 }),
  .add (.selector "Layer" [⟨"WET", 0⟩, ⟨"SNOW", 1⟩, ⟨"ICE", 1⟩] .none),
  .add .surface,
  .connect ⟨⟨1, 3⟩, 1⟩ ⟨⟨2, 1⟩, 0⟩, .connect ⟨⟨1, 3⟩, 1⟩ ⟨⟨3, 1⟩, 0⟩,
  .connect ⟨⟨2, 1⟩, 2⟩ ⟨⟨3, 1⟩, 1⟩, .connect ⟨⟨3, 1⟩, 2⟩ ⟨⟨4, 1⟩, 0⟩,
  .connect ⟨⟨2, 1⟩, 2⟩ ⟨⟨4, 1⟩, 1⟩]

/-- A material with a tint and two selectors that share the keyword `WET`. -/
def stone : MaterialGraph := build stoneSteps

/-- In snow, all nodes of `stone` count for its color. -/
theorem walk_stone_snow : stone.walk ⟨4, 1⟩ ⟨some [0], some (.ofList ["SNOW"])⟩ =
    .ok [⟨1, 3⟩, ⟨2, 1⟩, ⟨3, 1⟩, ⟨4, 1⟩] := by
  cbv

end MaterialGraph

end PassForge
