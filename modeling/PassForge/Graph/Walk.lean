import PassForge.DepthFirst
import PassForge.Graph.Basic

/-!
# Walking a graph

`walk` lists the nodes that a root needs through its inputs, every node after the nodes that feed
it: the order in which their code is evaluated.  Only the inputs of the root that are asked for
count; and with a set of keywords, a node that can choose by keyword counts only with the inputs
chosen.

A key without a node is listed but leads no further.
-/

namespace PassForge

/-- What a walk follows. -/
structure Gate where
  /-- The inputs of the root to follow; all of them if there is no list. -/
  rootSlots : Option (List SlotId)
  /-- The active keywords; without them every input of every node counts. -/
  keywords : Option KeywordSet
deriving DecidableEq, Repr

namespace MaterialGraph

variable (g : MaterialGraph) (root : NodeId) (gate : Gate)

/-- The inputs of a node that are followed. -/
def followed (id : NodeId) : List SlotId :=
  match g.node? id with
  | none => []
  | some n =>
    let slots := n.inputsUnder gate.keywords
    if id = root then
      match gate.rootSlots with
      | none => slots
      | some wanted => slots.filter (· ∈ wanted)
    else slots

/-- The nodes that feed the inputs of a node that are followed. -/
def feeders (id : NodeId) : List NodeId :=
  (g.followed root gate id).filterMap fun slot => (g.source? ⟨id, slot⟩).map SlotRef.node

/-- The root and all nodes that feed any node: no walk goes beyond them. -/
def walkBound : List NodeId := root :: g.wiring.edges.map (·.source.node)

theorem mem_walkBound_of_mem_feeders {id m : NodeId} (h : m ∈ g.feeders root gate id) :
    m ∈ g.walkBound root := by
  obtain ⟨slot, _, hm⟩ := List.mem_filterMap.1 h
  obtain ⟨source, hs, rfl⟩ := Option.map_eq_some_iff.1 hm
  obtain ⟨e, he, rfl⟩ := Option.map_eq_some_iff.1 hs
  exact List.mem_cons_of_mem _ (List.mem_map.2 ⟨e, List.mem_of_find?_eq_some he, rfl⟩)

/-- The nodes of `initial`, and then those that the root needs and that are not among them. -/
def walkFrom (initial : List NodeId) : List NodeId :=
  DepthFirst.order (g.feeders root gate) (g.walkBound root)
    (fun _ _ h => g.mem_walkBound_of_mem_feeders root gate h) root List.mem_cons_self initial

/-- Extends a list of nodes by those that the root needs. -/
def collect (initial : List NodeId) : Except GraphError (List NodeId) := do
  let _ ← g.node root
  return g.walkFrom root gate initial

/-- The nodes that the root needs, in the order of evaluation. -/
def walk : Except GraphError (List NodeId) := g.collect root gate []

end MaterialGraph

end PassForge
