import PassForge.Proofs.Handover
import PassForge.Proofs.Locality

/-!
# The groups of several lists of slots

The keyword groups of a pass are collected in turn through the slots of its stages
(`GroupTable.collectEach`).  Here the groups are compared as sets of options
(`GroupTable.optionSets`), apart from the order in which they are found and from the order in which
their options are declared.

The walk of each stage asks for some slots at the root and for all inputs elsewhere, also where a
circle leads back to the root.  Still, what is reached through slots that are asked for together is
reached through one of the lists alone (`MaterialGraph.reaches_flatten_iff`): the last time a path
comes through the root, it leaves by one slot.

* `GroupTable.mem_optionSets_collectEach_iff`: the sets of options that are found.
* `GroupTable.collectEach_split`: they do not depend on how the slots are split over the stages.
-/

namespace PassForge

/-! ### Nodes reached through several lists of slots -/

namespace MaterialGraph

variable {g : MaterialGraph} {root id : NodeId} {slots part : List SlotId}
  {calls : List (List SlotId)} {e : Edge}

theorem Reaches.mono (hpart : part ⊆ slots) (h : g.Reaches root part id) :
    g.Reaches root slots id :=
  reaches_of_mem_walkFrom hpart (mem_walkFrom_iff_reaches.2 h)

/-- Away from the root, it does not matter which of its slots are asked for. -/
theorem Follows.of_ne_root (h : g.Follows root ⟨some part, none⟩ e) (hne : e.target.node ≠ root) :
    g.Follows root ⟨some slots, none⟩ e :=
  ⟨h.edge, h.counts, fun hroot => absurd hroot hne⟩

theorem Follows.exists_of_flatten (h : g.Follows root ⟨some calls.flatten, none⟩ e)
    (hroot : e.target.node = root) : ∃ slots ∈ calls, g.Follows root ⟨some slots, none⟩ e := by
  obtain ⟨slots, hslots, hmem⟩ := List.mem_flatten.1 (h.wanted hroot _ rfl)
  refine ⟨slots, hslots, h.edge, h.counts, fun _ wanted hwanted => ?_⟩
  cases hwanted
  exact hmem

/-- **What joined lists of slots reach, one of them reaches.** -/
theorem reaches_flatten_iff (hne : calls ≠ []) :
    g.Reaches root calls.flatten id ↔ ∃ slots ∈ calls, g.Reaches root slots id := by
  constructor
  · intro h
    induction h with
    | refl =>
      obtain ⟨slots, hslots⟩ := List.exists_mem_of_ne_nil calls hne
      exact ⟨slots, hslots, reaches_root⟩
    | tail _ hstep ih =>
      obtain ⟨e, he, htarget, hsource⟩ := hstep
      by_cases hroot : e.target.node = root
      · -- the path is back at the root and starts anew
        obtain ⟨slots, hslots, hfollows⟩ := he.exists_of_flatten hroot
        exact ⟨slots, hslots, .single ⟨e, hfollows, hroot, hsource⟩⟩
      · obtain ⟨slots, hslots, hreached⟩ := ih
        exact ⟨slots, hslots, Relation.ReflTransGen.tail hreached
          ⟨e, he.of_ne_root hroot, htarget, hsource⟩⟩
  · rintro ⟨slots, hslots, h⟩
    exact h.mono fun slot hslot => List.mem_flatten.2 ⟨slots, hslots, hslot⟩

theorem Reaches.eq_root_of_no_root (hroot : g.node? root = none) (h : g.Reaches root slots id) :
    id = root := by
  induction h with
  | refl => rfl
  | tail _ hstep ih =>
    obtain ⟨e, he, htarget, -⟩ := hstep
    obtain ⟨n, hn, -⟩ := he.counts
    rw [htarget, ih, hroot] at hn
    cases hn

end MaterialGraph

/-! ### Sets of options -/

/-- A node declares a set of options: a switch has routes for these options and for no others, and
there is at least one. -/
def Node.Declares (n : Node) (set : NameSet) : Prop :=
  ∃ s ∈ n.switches.getD [], s.routes ≠ [] ∧ ∀ k, k ∈ set ↔ ∃ r ∈ s.routes, r.option = k

theorem Switch.isEmpty_group {s : Switch} : s.group.isEmpty = false ↔ s.routes ≠ [] := by
  cases hroutes : s.routes <;>
    simp [group, KeywordGroup.ofOptions, KeywordGroup.isEmpty, hroutes, List.eraseDups_cons]

theorem Switch.mem_identity_group {s : Switch} {k : String} :
    k ∈ s.group.identity ↔ ∃ r ∈ s.routes, r.option = k := by
  simp [group, KeywordGroup.identity, KeywordGroup.ofOptions]

theorem Node.declares_iff {n : Node} {set : NameSet} :
    n.Declares set ↔ ∃ group ∈ n.groups, group.isEmpty = false ∧ group.identity = set := by
  unfold Declares groups
  simp only [List.mem_map, exists_exists_and_eq_and, Switch.isEmpty_group]
  refine exists_congr fun s => and_congr_right fun _ => and_congr_right fun _ => ?_
  constructor
  · intro h
    exact NameSet.ext fun k => Switch.mem_identity_group.trans (h k).symm
  · rintro rfl k
    exact Switch.mem_identity_group

namespace GroupTable

variable {t : GroupTable} {g : MaterialGraph} {root : NodeId} {slots : List SlotId}
  {calls calls' : List (List SlotId)} {set : NameSet}

/-- The sets of options of the groups. -/
def optionSets (t : GroupTable) : List NameSet := t.groups.map KeywordGroup.identity

theorem optionSets_nodup (t : GroupTable) : t.optionSets.Nodup := by
  rw [optionSets, List.Nodup, List.pairwise_map]
  refine t.distinct.imp fun {group group'} hne heq => ?_
  have hsame : (group.identity == group'.identity) = true := beq_iff_eq.2 heq
  exact Bool.false_ne_true (hne.symm.trans hsame)

theorem mem_optionSets_insert_iff {group : KeywordGroup} :
    set ∈ (t.insert group).optionSets ↔
      set ∈ t.optionSets ∨ group.isEmpty = false ∧ group.identity = set := by
  rcases t.insert_cases group with ⟨hempty, heq⟩ | ⟨group', hgroup', hsame, heq⟩ | ⟨hne, hgroups⟩
  · simp [heq, hempty]
  · have hfound : group'.identity = group.identity := eq_of_beq hsame
    rw [heq, or_iff_left_of_imp]
    rintro ⟨-, rfl⟩
    exact List.mem_map.2 ⟨group', hgroup', hfound⟩
  · simp [optionSets, hgroups, hne, eq_comm]

theorem mem_optionSets_insertAll_iff {l : List KeywordGroup} :
    set ∈ (t.insertAll l).optionSets ↔
      set ∈ t.optionSets ∨ ∃ group ∈ l, group.isEmpty = false ∧ group.identity = set := by
  unfold insertAll
  induction l generalizing t with
  | nil => simp
  | cons group l ih =>
    rw [List.foldl_cons, ih, mem_optionSets_insert_iff, or_assoc]
    simp

/-! ### Collecting -/

/-- The groups after collecting through some slots; a failure changes nothing. -/
def collected (t : GroupTable) (g : MaterialGraph) (root : NodeId) (slots : List SlotId) :
    GroupTable :=
  match t.collect g root slots with
  | .ok t' => t'
  | .error _ => t

/-- The groups after collecting through several lists of slots, one after the other. -/
def collectEach (t : GroupTable) (g : MaterialGraph) (root : NodeId)
    (calls : List (List SlotId)) : GroupTable :=
  calls.foldl (fun t slots => t.collected g root slots) t

theorem collect_of_no_root (hroot : g.node? root = none) :
    t.collect g root slots = .error (.unknownNode root) := by
  rw [collect, MaterialGraph.walk, MaterialGraph.collect,
    MaterialGraph.node_of_node?_eq_none hroot]
  rfl

theorem collected_of_no_root (hroot : g.node? root = none) : t.collected g root slots = t := by
  rw [collected, collect_of_no_root hroot]

theorem collectEach_of_no_root (hroot : g.node? root = none) : t.collectEach g root calls = t := by
  unfold collectEach
  induction calls with
  | nil => rfl
  | cons slots calls ih => rw [List.foldl_cons, collected_of_no_root hroot, ih]

theorem foldlM_collect {n : Node} (hroot : g.node? root = some n) :
    calls.foldlM (fun t slots => t.collect g root slots) t = .ok (t.collectEach g root calls) := by
  unfold collectEach
  induction calls generalizing t with
  | nil => rfl
  | cons slots calls ih =>
    obtain ⟨t', ht'⟩ := t.exists_collect hroot slots
    have hnext : t.collected g root slots = t' := by rw [collected, ht']
    rw [List.foldlM_cons, List.foldl_cons, ht', hnext]
    exact ih

/-- One call finds the sets of options that nodes declare which are reached through its slots. -/
theorem mem_optionSets_collected_iff : set ∈ (t.collected g root slots).optionSets ↔
    set ∈ t.optionSets ∨ ∃ id n, g.Reaches root slots id ∧ g.node? id = some n ∧
      n.Declares set := by
  cases hroot : g.node? root with
  | none =>
    rw [collected_of_no_root hroot]
    refine ⟨.inl, fun h => h.elim (fun hset => hset) ?_⟩
    rintro ⟨id, n, hid, hn, -⟩
    rw [hid.eq_root_of_no_root hroot, hroot] at hn
    cases hn
  | some n =>
    obtain ⟨t', ht'⟩ := t.exists_collect hroot slots
    have hnext : t.collected g root slots = t' := by rw [collected, ht']
    rw [hnext, collect_eq_ok ht', mem_optionSets_insertAll_iff]
    simp only [Node.declares_iff, List.mem_flatMap, List.mem_filterMap,
      MaterialGraph.mem_walkFrom_iff_reaches]
    constructor
    · rintro (hset | ⟨group, ⟨n, ⟨id, hid, hn⟩, hgroup⟩, hset⟩)
      · exact .inl hset
      · exact .inr ⟨id, n, hid, hn, group, hgroup, hset⟩
    · rintro (hset | ⟨id, n, hid, hn, group, hgroup, hset⟩)
      · exact .inl hset
      · exact .inr ⟨group, ⟨n, ⟨id, hid, hn⟩, hgroup⟩, hset⟩

/-- **Several calls find what any of them finds.** -/
theorem mem_optionSets_collectEach_iff : set ∈ (t.collectEach g root calls).optionSets ↔
    set ∈ t.optionSets ∨ ∃ slots ∈ calls, ∃ id n, g.Reaches root slots id ∧
      g.node? id = some n ∧ n.Declares set := by
  unfold collectEach
  induction calls generalizing t with
  | nil => simp
  | cons slots calls ih =>
    rw [List.foldl_cons, ih, mem_optionSets_collected_iff, or_assoc]
    simp

/-- Tables with the same sets of options have them in another order at most. -/
theorem perm_optionSets {t t' : GroupTable} (h : ∀ set, set ∈ t.optionSets ↔ set ∈ t'.optionSets) :
    t.optionSets.Perm t'.optionSets :=
  (List.perm_ext_iff_of_nodup t.optionSets_nodup t'.optionSets_nodup).2 h

/-- **How slots are split over the stages does not matter.**  Collecting through several lists of
slots, in a graph that may have circles, leaves each set of options once.  To those that were there
it adds the ones that nodes declare which are reached from the root through some of the lists.  The
same sets are left by a single call with all slots, if there was a call at all, and by the same
calls in another order or made several times.  With a root all calls succeed; without one a call
fails, and nothing changes. -/
theorem collectEach_split (t : GroupTable) (g : MaterialGraph) (root : NodeId)
    (calls : List (List SlotId)) :
    (t.collectEach g root calls).optionSets.Nodup ∧
    (∀ set, set ∈ (t.collectEach g root calls).optionSets ↔
      set ∈ t.optionSets ∨ ∃ slots ∈ calls, ∃ id n, g.Reaches root slots id ∧
        g.node? id = some n ∧ n.Declares set) ∧
    (calls ≠ [] → (t.collectEach g root [calls.flatten]).optionSets.Perm
      (t.collectEach g root calls).optionSets) ∧
    (∀ calls', (∀ slots, slots ∈ calls' ↔ slots ∈ calls) →
      (t.collectEach g root calls').optionSets.Perm (t.collectEach g root calls).optionSets) ∧
    ((g.node? root).isSome = true →
      calls.foldlM (fun t slots => t.collect g root slots) t =
        .ok (t.collectEach g root calls)) ∧
    (g.node? root = none →
      (∀ slots, t.collect g root slots = .error (.unknownNode root)) ∧
      t.collectEach g root calls = t) := by
  refine ⟨optionSets_nodup _, fun set => mem_optionSets_collectEach_iff, fun hne => ?_,
    fun calls' hsame => ?_, fun hroot => ?_, fun hroot => ?_⟩
  · refine perm_optionSets fun set => ?_
    simp only [mem_optionSets_collectEach_iff, List.mem_singleton, exists_eq_left,
      MaterialGraph.reaches_flatten_iff hne]
    refine or_congr_right ⟨?_, ?_⟩
    · rintro ⟨id, n, ⟨slots, hslots, hid⟩, hn⟩
      exact ⟨slots, hslots, id, n, hid, hn⟩
    · rintro ⟨slots, hslots, id, n, hid, hn⟩
      exact ⟨id, n, ⟨slots, hslots, hid⟩, hn⟩
  · refine perm_optionSets fun set => ?_
    simp only [mem_optionSets_collectEach_iff, hsame]
  · obtain ⟨n, hn⟩ := Option.isSome_iff_exists.1 hroot
    exact foldlM_collect hn
  · exact ⟨fun slots => collect_of_no_root hroot, collectEach_of_no_root hroot⟩

/-- The groups of `stone` are found through the offset and the color, through both at once, and
through the color once more before and after the offset.  The tint that was removed finds none. -/
theorem collectEach_split_stone :
    (MaterialGraph.stone.node? ⟨4, 1⟩).isSome = true ∧
    empty.collectEach .stone ⟨4, 1⟩ [[1], [0]] = Generator.stoneGroups ∧
    (empty.collectEach .stone ⟨4, 1⟩ [[1, 0]]).optionSets.Perm
      [.ofList ["WET", "_"], .ofList ["ICE", "SNOW", "WET"]] ∧
    (empty.collectEach .stone ⟨4, 1⟩ [[0], [1], [0]]).optionSets.Perm
      [.ofList ["WET", "_"], .ofList ["ICE", "SNOW", "WET"]] ∧
    MaterialGraph.stone.node? ⟨1, 1⟩ = none ∧
    Generator.stoneGroups.collect .stone ⟨1, 1⟩ [0] = .error (.unknownNode ⟨1, 1⟩) := by
  have hroot : (MaterialGraph.stone.node? ⟨4, 1⟩).isSome = true := rfl
  have hremoved : MaterialGraph.stone.node? ⟨1, 1⟩ = none := rfl
  obtain ⟨-, -, hjoined, hagain, hcalls, -⟩ := collectEach_split empty .stone ⟨4, 1⟩ [[1], [0]]
  have hgroups : empty.collectEach .stone ⟨4, 1⟩ [[1], [0]] = Generator.stoneGroups := by
    have hstone : [[1], [0]].foldlM (fun t slots => t.collect .stone ⟨4, 1⟩ slots) empty =
        .ok Generator.stoneGroups := by
      simpa [Generator.collectGroups, Generator.stone] using Generator.collectGroups_stone
    exact Except.ok.inj ((hcalls hroot).symm.trans hstone)
  have hsets : Generator.stoneGroups.optionSets =
      [.ofList ["WET", "_"], .ofList ["ICE", "SNOW", "WET"]] := by decide
  rw [hgroups, hsets] at hjoined hagain
  have hsame : ∀ slots : List SlotId, slots ∈ [[0], [1], [0]] ↔ slots ∈ [[1], [0]] := by
    intro slots
    simp only [List.mem_cons, List.not_mem_nil, or_false]
    tauto
  obtain ⟨-, -, -, -, -, hfails⟩ := collectEach_split Generator.stoneGroups .stone ⟨1, 1⟩ []
  exact ⟨hroot, hgroups, hjoined (by decide), hagain _ hsame, hremoved, (hfails hremoved).1 [0]⟩

end GroupTable

end PassForge
