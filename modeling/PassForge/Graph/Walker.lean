import PassForge.BufferPool
import PassForge.Graph.Walk

/-!
# Walks with borrowed buffers

A walker takes walks through one graph.  The nodes that a walk has met and its stack are buffers
that it borrows, adds to as it finds them, and gives back in the end.  A missing root is noticed
before anything is borrowed.
-/

namespace PassForge

/-- A graph, and the buffers for walks through it. -/
structure Walker where
  graph : MaterialGraph
  /-- Buffers for the nodes met. -/
  visited : BufferPool (List NodeId)
  /-- Buffers for the steps to be taken. -/
  stack : BufferPool (List (DepthFirst.Frame NodeId))
deriving Repr

namespace Walker

open DepthFirst

/-- A walker without buffers. -/
def new (g : MaterialGraph) : Walker := ⟨g, .empty, .empty⟩

/-- Takes the steps of a stack that begins with the root, with some nodes met and listed. -/
def search (g : MaterialGraph) (root : NodeId) (gate : Gate) (met listed : List NodeId)
    (stack : List (Frame NodeId)) : Search NodeId :=
  sweep (g.feeders root gate) (g.walkBound root ++ stack.map Frame.item)
    (fun _ _ h => List.mem_append_left _ (g.mem_walkBound_of_mem_feeders root gate h))
    met listed (.enter root :: stack) fun f hf => by
      rcases List.mem_cons.1 hf with rfl | hf
      · exact List.mem_append_left _ List.mem_cons_self
      · exact List.mem_append_right _ (List.mem_map_of_mem hf)

/-- Extends a list of nodes by those that the root needs. -/
def collect (w : Walker) (root : NodeId) (gate : Gate) (initial : List NodeId) :
    Except GraphError (List NodeId) × Walker :=
  match w.graph.node root with
  | .error e => (.error e, w)
  | .ok _ =>
    let (visited, visitedPool) := w.visited.acquire
    let (stack, stackPool) := w.stack.acquire
    let s := search w.graph root gate (initial ++ visited) initial stack
    (.ok s.listed, ⟨w.graph, visitedPool.release s.met, stackPool.release s.stack⟩)

end Walker

end PassForge
