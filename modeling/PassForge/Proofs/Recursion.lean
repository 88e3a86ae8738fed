import PassForge.Proofs.Collect

/-!
# Walking by recursion

A walk works on a stack of frames, leaves out what has been met when it puts frames on the stack,
and passes over frames whose item has been met in the meantime.  `visit` is the search that it
stands for, as a recursion: an item that is marked is left alone; any other is marked, then all that
it leads to is visited in turn, and then it is listed.

Nothing in this recursion says that it ends, so it is given a depth that it must not exceed.
`foldlM_visit` shows that it gets by with one level for every item that is not marked, and that it
comes to the same as `Visits`.  `collect_eq_visit` carries this over to graphs, where an item leads
to what feeds its followed inputs, in the order of its slots.
-/

namespace PassForge

/-! ### The recursive search -/

namespace DepthFirst

/-- How far a search has come. -/
structure Trail (α : Type) where
  marked : List α
  listed : List α
deriving DecidableEq, Repr

variable {α : Type} [DecidableEq α] {next : α → List α} {bound : List α} {depth : Nat}

/-- Visits an item.  There is no result if the recursion gets deeper than `depth`. -/
def visit (next : α → List α) : (depth : Nat) → Trail α → α → Option (Trail α)
  | 0, _, _ => none
  | depth + 1, trail, a =>
    if a ∈ trail.marked then some trail
    else do
      let below ← (next a).foldlM (visit next depth) ⟨a :: trail.marked, trail.listed⟩
      return ⟨below.marked, below.listed ++ [a]⟩

theorem visit_of_mem {trail : Trail α} {a : α} (h : a ∈ trail.marked) :
    visit next (depth + 1) trail a = some trail := by
  rw [visit, if_pos h]

theorem visit_of_not_mem {trail below : Trail α} {a : α} (h : a ∉ trail.marked)
    (hbelow : (next a).foldlM (visit next depth) ⟨a :: trail.marked, trail.listed⟩ =
      some below) :
    visit next (depth + 1) trail a = some ⟨below.marked, below.listed ++ [a]⟩ := by
  rw [visit, if_neg h, hbelow]
  rfl

/-- **The recursion ends**, and marks and lists what visits mark and list. -/
theorem foldlM_visit {met items new met' : List α} (hclosed : ∀ a b, b ∈ next a → b ∈ bound)
    (h : Visits next met items new met') (hitems : ∀ a ∈ items, a ∈ bound)
    (hdepth : (unmet bound met).length < depth) (listed : List α) :
    items.foldlM (visit next depth) ⟨met, listed⟩ = some ⟨met', listed ++ new⟩ := by
  induction h generalizing depth listed with
  | nil =>
    rw [List.append_nil]
    rfl
  | skip hmet _ ih =>
    obtain ⟨depth, rfl⟩ := Nat.exists_eq_add_one_of_ne_zero (Nat.ne_zero_of_lt hdepth)
    rw [List.foldlM_cons, visit_of_mem hmet]
    exact ih (List.forall_mem_cons.1 hitems).2 hdepth listed
  | @enter met items inner met₁ new met₂ a hmet hbelow _ ihbelow ihrest =>
    obtain ⟨depth, rfl⟩ := Nat.exists_eq_add_one_of_ne_zero (Nat.ne_zero_of_lt hdepth)
    obtain ⟨ha, hrest⟩ := List.forall_mem_cons.1 hitems
    -- below the item one level is gone, but so is one unmet item
    have hlt : (unmet bound (a :: met)).length < depth :=
      Nat.lt_of_lt_of_le (length_unmet_cons_lt ha hmet) (Nat.le_of_lt_succ hdepth)
    have hle : (unmet bound met₁).length ≤ (unmet bound met).length :=
      length_unmet_le fun x hx => hbelow.mem_met'.2 (.inl (List.mem_cons_of_mem _ hx))
    calc (a :: items).foldlM (visit next (depth + 1)) ⟨met, listed⟩
        = items.foldlM (visit next (depth + 1)) ⟨met₁, listed ++ inner ++ [a]⟩ := by
          rw [List.foldlM_cons, visit_of_not_mem hmet (ihbelow (hclosed a) hlt listed)]
          rfl
      _ = some ⟨met₂, listed ++ inner ++ [a] ++ new⟩ :=
          ihrest hrest (Nat.lt_of_le_of_lt hle hdepth) _
      _ = some ⟨met₂, listed ++ (inner ++ a :: new)⟩ := by
          simp only [List.append_assoc, List.singleton_append]

end DepthFirst

/-! ### Followed inputs -/

instance (n : Node) (keywords : Option KeywordSet) (slot : SlotId) :
    Decidable (n.Counts keywords slot) :=
  decidable_of_iff _ Node.mem_inputsUnder_iff

theorem Node.inputsUnder_eq_filter (n : Node) (keywords : Option KeywordSet) :
    n.inputsUnder keywords = (n.inputs.map Slot.id).filter (n.Counts keywords ·) := by
  simp only [← mem_inputsUnder_iff]
  have hall : n.inputs.map Slot.id =
      (n.inputs.map Slot.id).filter (· ∈ n.inputs.map Slot.id) :=
    (List.filter_eq_self.2 fun _ hslot => decide_eq_true hslot).symm
  cases keywords with
  | none => exact hall
  | some active =>
    unfold inputsUnder inputsFor
    cases n.switches with
    | none => exact hall
    | some switches =>
      refine List.filter_congr fun slot hslot => ?_
      simp [hslot]

namespace MaterialGraph

variable {g : MaterialGraph} {root id : NodeId} {gate : Gate}

/-- The inputs of a node that are followed, in the order of its slots: those that count under the
keywords and, at the root, are asked for. -/
def followedInputs (g : MaterialGraph) (root : NodeId) (gate : Gate) (id : NodeId) : List Slot :=
  match g.node? id with
  | none => []
  | some n => n.slots.filter fun s =>
      s.direction = .input ∧ n.Counts gate.keywords s.id ∧
        (id = root → ∀ wanted ∈ gate.rootSlots, s.id ∈ wanted)

/-- The nodes that feed the followed inputs of a node, in that order. -/
def inputFeeders (g : MaterialGraph) (root : NodeId) (gate : Gate) (id : NodeId) : List NodeId :=
  (g.followedInputs root gate id).filterMap fun s => (g.source? ⟨id, s.id⟩).map SlotRef.node

theorem followed_eq_filter {n : Node} (hn : g.node? id = some n) :
    g.followed root gate id = (n.inputsUnder gate.keywords).filter
      fun slot => id = root → ∀ wanted ∈ gate.rootSlots, slot ∈ wanted := by
  unfold followed
  rw [hn]
  by_cases hroot : id = root
  · cases gate.rootSlots with
    | none => simp [hroot]
    | some wanted => simp [hroot]
  · simp [hroot]

theorem map_id_followedInputs : (g.followedInputs root gate id).map Slot.id =
    g.followed root gate id := by
  cases hn : g.node? id with
  | none => simp only [followedInputs, followed, hn, List.map_nil]
  | some n =>
    simp only [followed_eq_filter hn, Node.inputsUnder_eq_filter, Node.inputs, followedInputs, hn,
      List.filter_map, List.filter_filter]
    congr 1
    refine List.filter_congr fun s _ => ?_
    simp only [Function.comp_apply, Slot.isInput]
    grind

theorem inputFeeders_eq : g.inputFeeders root gate = g.feeders root gate := by
  funext id
  rw [inputFeeders, feeders, ← map_id_followedInputs, List.filterMap_map]
  rfl

theorem length_unmet_walkBound_le (initial : List NodeId) :
    (DepthFirst.unmet (g.walkBound root) initial).length ≤ g.wiring.edges.length + 1 := by
  refine Nat.le_trans (List.length_filter_le _ _) ?_
  simp [walkBound]

/-- **A walk is a recursive search.**  From a root that exists, the recursion ends at a depth that
the edges of the graph bound, and the walk extends its list by the same nodes in the same order: a
node that is in the list or has been visited is left alone, and any other is listed after its
followed inputs have been visited in the order of its slots. -/
theorem collect_eq_visit (g : MaterialGraph) (root : NodeId) (gate : Gate)
    (hroot : (g.node? root).isSome) (initial : List NodeId) :
    ∃ trail, (∀ depth, g.wiring.edges.length + 1 < depth →
        DepthFirst.visit (g.inputFeeders root gate) depth ⟨initial, initial⟩ root = some trail) ∧
      g.collect root gate initial = .ok trail.listed := by
  obtain ⟨n, hn⟩ := Option.isSome_iff_exists.1 hroot
  obtain ⟨new, met', hvisits, hwalk⟩ := g.exists_visits_walkFrom root gate initial
  refine ⟨⟨met', initial ++ new⟩, ?_, ?_⟩
  · intro depth hdepth
    have hstart : ∀ a ∈ [root], a ∈ g.walkBound root := by simp [walkBound]
    have hfold := DepthFirst.foldlM_visit
      (fun _ _ h => g.mem_walkBound_of_mem_feeders root gate h) hvisits hstart
      (Nat.lt_of_le_of_lt (length_unmet_walkBound_le initial) hdepth) initial
    rw [List.foldlM_cons] at hfold
    rw [inputFeeders_eq]
    simpa using hfold
  · rw [collect, node_eq_ok_iff.2 hn, hwalk]
    rfl

/-- A material in which two selectors feed each other, and a tint feeds both and the root. -/
def eddy : MaterialGraph := build [
  .add .tint, .add (.selector "Detail" [⟨"_", 0⟩, ⟨"WET", 1⟩] .none),
  .add (.selector "Layer" [⟨"_", 0⟩, ⟨"WET", 1⟩] .none), .add .surface,
  .connect ⟨⟨1, 1⟩, 1⟩ ⟨⟨2, 1⟩, 0⟩, .connect ⟨⟨3, 1⟩, 2⟩ ⟨⟨2, 1⟩, 1⟩,
  .connect ⟨⟨2, 1⟩, 2⟩ ⟨⟨3, 1⟩, 0⟩, .connect ⟨⟨1, 1⟩, 1⟩ ⟨⟨3, 1⟩, 1⟩,
  .connect ⟨⟨2, 1⟩, 2⟩ ⟨⟨4, 1⟩, 0⟩, .connect ⟨⟨1, 1⟩, 1⟩ ⟨⟨4, 1⟩, 1⟩]

/-- In the eddy, the selector that is met second comes before the one that it leads back to. -/
theorem collect_eq_visit_eddy : (eddy.node? ⟨4, 1⟩).isSome ∧ eddy.wiring.edges.length + 1 < 8 ∧
    ∃ trail, DepthFirst.visit (eddy.inputFeeders ⟨4, 1⟩ ⟨none, none⟩) 8 ⟨[], []⟩ ⟨4, 1⟩ =
        some trail ∧
      trail.listed = [⟨1, 1⟩, ⟨3, 1⟩, ⟨2, 1⟩, ⟨4, 1⟩] := by
  have hroot : (eddy.node? ⟨4, 1⟩).isSome := by decide
  have hdepth : eddy.wiring.edges.length + 1 < 8 := by decide
  have hcollect : eddy.collect ⟨4, 1⟩ ⟨none, none⟩ [] =
      .ok [⟨1, 1⟩, ⟨3, 1⟩, ⟨2, 1⟩, ⟨4, 1⟩] := by cbv
  obtain ⟨trail, hvisit, hlisted⟩ := collect_eq_visit eddy ⟨4, 1⟩ ⟨none, none⟩ hroot []
  rw [hcollect] at hlisted
  exact ⟨hroot, hdepth, trail, hvisit 8 hdepth, (Except.ok.inj hlisted).symm⟩

end MaterialGraph

end PassForge
