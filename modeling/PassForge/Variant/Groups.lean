import PassForge.Graph.Walk

/-!
# Collecting keyword groups

The keyword groups that the nodes of a pass declare, in the order they are found.  Groups with the
same set of options count as one, and groups without options do not count.  Nodes are found without
regard to keywords.
-/

namespace PassForge

/-- The keyword groups found so far. -/
structure GroupTable where
  groups : List KeywordGroup
  /-- Every group has an option. -/
  offered : ∀ g ∈ groups, g.isEmpty = false
  /-- No two groups have the same options. -/
  distinct : groups.Pairwise fun g h => (g == h) = false
deriving Repr

namespace GroupTable

/-- No group. -/
def empty : GroupTable := ⟨[], by simp, List.Pairwise.nil⟩

/-- Whether a group with the same options has been found. -/
def contains (t : GroupTable) (g : KeywordGroup) : Bool := t.groups.any (· == g)

/-- Adds a group at the end, unless it is empty or has been found before. -/
def insert (t : GroupTable) (g : KeywordGroup) : GroupTable :=
  if h : g.isEmpty = false ∧ t.contains g = false then
    { groups := t.groups ++ [g]
      offered := fun g' hg' => by
        rcases List.mem_append.1 hg' with hg' | hg'
        · exact t.offered g' hg'
        · rw [List.mem_singleton.1 hg']
          exact h.1
      distinct := by
        refine List.pairwise_append.2 ⟨t.distinct, List.pairwise_singleton .., fun a ha b hb => ?_⟩
        rw [List.mem_singleton.1 hb]
        have hall := List.any_eq_false.1 h.2 a ha
        simpa using hall }
  else t

/-- Adds groups in turn. -/
def insertAll (t : GroupTable) (l : List KeywordGroup) : GroupTable := l.foldl insert t

/-- Adds the groups that the nodes declare which a root needs through some of its slots. -/
def collect (t : GroupTable) (g : MaterialGraph) (root : NodeId) (slots : List SlotId) :
    Except GraphError GroupTable := do
  let ids ← g.walk root ⟨some slots, none⟩
  return t.insertAll ((ids.filterMap g.node?).flatMap Node.groups)

end GroupTable

end PassForge
