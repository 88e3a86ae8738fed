import PassForge.Graph.Arena
import PassForge.Graph.Node

/-!
# Material graphs

A material graph holds nodes and the edges between them.  An edge leads from an output of one node
to an input of another; an input is fed by one edge at most, so edges are stored by the input they
feed.

`connect` checks that both ends exist and have the right direction and that no node feeds itself.
Removing a node removes the edges that touch it.  `replaceNode` is the one operation that can leave
edges without ends.
-/

namespace PassForge

/-- The key of a node. -/
abbrev NodeId := Key

/-- The key of a node as text. -/
def NodeId.render (id : NodeId) : String := Key.label "NodeId" id

/-- A slot of a node in a graph. -/
structure SlotRef where
  node : NodeId
  slot : SlotId
deriving DecidableEq, Repr

/-- An edge. -/
structure Edge where
  /-- The input that is fed. -/
  target : SlotRef
  /-- The output that feeds it. -/
  source : SlotRef
deriving DecidableEq, Repr

/-! ### Edges by input -/

/-- Edges, at most one into each input. -/
structure Wiring where
  edges : List Edge
  /-- Every input is fed once. -/
  distinct : (edges.map Edge.target).Nodup
deriving Repr

namespace Wiring

/-- No edge. -/
def empty : Wiring := ⟨[], List.nodup_nil⟩

/-- The output that feeds an input. -/
def source? (w : Wiring) (target : SlotRef) : Option SlotRef :=
  (w.edges.find? (·.target == target)).map Edge.source

/-- The edges that satisfy a condition. -/
def filter (w : Wiring) (p : Edge → Bool) : Wiring :=
  ⟨w.edges.filter p, (List.Sublist.map _ List.filter_sublist).nodup w.distinct⟩

/-- Removes the edge into an input. -/
def erase (w : Wiring) (target : SlotRef) : Wiring := w.filter (·.target != target)

/-- Removes the edges that touch a node. -/
def eraseNode (w : Wiring) (id : NodeId) : Wiring :=
  w.filter fun e => e.target.node != id && e.source.node != id

/-- Adds an edge in place of the one into the same input. -/
def insert (w : Wiring) (e : Edge) : Wiring where
  edges := e :: (w.erase e.target).edges
  distinct := by
    refine List.nodup_cons.2 ⟨fun h => ?_, (w.erase e.target).distinct⟩
    obtain ⟨e', he', heq⟩ := List.mem_map.1 h
    have hne := (List.mem_filter.1 he').2
    simp [heq] at hne

/-- The number of edges. -/
def size (w : Wiring) : Nat := w.edges.length

end Wiring

/-! ### Graphs -/

/-- Why an operation on a graph is refused. -/
inductive GraphError where
  /-- The graph has no such node. -/
  | unknownNode (id : NodeId)
  /-- The node has no such slot. -/
  | missingSlot (node : String) (slot : SlotId)
  /-- The slot does not have the direction asked for. -/
  | wrongDirection (node : String) (slot : SlotId) (expected : Direction)
  /-- An edge would lead from a node to itself. -/
  | selfFeed (id : NodeId)
deriving DecidableEq, Repr

/-- The error in words. -/
def GraphError.message : GraphError → String
  | unknownNode id => "Unknown node: " ++ id.render
  | missingSlot node slot => s!"Invalid connection: node '{node}' has no slot {slot}"
  | wrongDirection node slot expected =>
    s!"Invalid connection: slot {slot} on '{node}' is not an " ++ expected.name ++ " slot"
  | selfFeed id => "Invalid connection: " ++ id.render ++ " cannot feed itself"

/-- Nodes and edges. -/
structure MaterialGraph where
  nodes : Arena Node
  wiring : Wiring
  /-- The serial of the node that is added next. -/
  nextSerial : Nat
deriving Repr

namespace MaterialGraph

/-- The graph without nodes. -/
def empty : MaterialGraph := ⟨.empty, .empty, 0⟩

/-- The node under a key. -/
def node? (g : MaterialGraph) (id : NodeId) : Option Node := g.nodes.get? id

/-- The node under a key, or the error that there is none. -/
def node (g : MaterialGraph) (id : NodeId) : Except GraphError Node :=
  match g.node? id with
  | some n => .ok n
  | none => .error (.unknownNode id)

/-- Adds a node, which gets the next serial. -/
def addNode (g : MaterialGraph) (n : Node) : NodeId × MaterialGraph :=
  let (id, nodes) := g.nodes.insert { n with serial := g.nextSerial }
  (id, { g with nodes := nodes, nextSerial := g.nextSerial + 1 })

/-- Removes a node and the edges that touch it; without such a node nothing changes. -/
def removeNode (g : MaterialGraph) (id : NodeId) : MaterialGraph :=
  match g.node? id with
  | none => g
  | some _ => { g with nodes := g.nodes.erase id, wiring := g.wiring.eraseNode id }

/-- Puts a node in place of another.  Its serial is kept as given, and edges stay as they are. -/
def replaceNode (g : MaterialGraph) (id : NodeId) (n : Node) : MaterialGraph :=
  { g with nodes := g.nodes.replace id n }

/-- Whether a slot exists and has a direction. -/
def checkSlot (g : MaterialGraph) (r : SlotRef) (expected : Direction) :
    Except GraphError Unit := do
  let n ← g.node r.node
  match n.slot? r.slot with
  | none => .error (.missingSlot n.name r.slot)
  | some s =>
    if s.direction = expected then return () else .error (.wrongDirection n.name r.slot expected)

/-- Feeds an input from an output, in place of what fed it before. -/
def connect (g : MaterialGraph) (source target : SlotRef) : Except GraphError MaterialGraph := do
  g.checkSlot source .output
  g.checkSlot target .input
  if source.node = target.node then .error (.selfFeed source.node)
  else return { g with wiring := g.wiring.insert ⟨target, source⟩ }

/-- Removes the edge into an input. -/
def disconnect (g : MaterialGraph) (target : SlotRef) : MaterialGraph :=
  { g with wiring := g.wiring.erase target }

/-- The output that feeds an input. -/
def source? (g : MaterialGraph) (target : SlotRef) : Option SlotRef := g.wiring.source? target

/-- Whether an input is fed. -/
def isConnected (g : MaterialGraph) (target : SlotRef) : Bool := (g.source? target).isSome

/-- What a list of nodes needs.  Keys without a node are left out. -/
def requirements (g : MaterialGraph) (ids : List NodeId) : Requirements :=
  (ids.filterMap g.node?).foldl (fun r n => r.union n.requirements) .none

/-- The slots of a node out of a list, each once, in the order of the list. -/
def resolveSlots (g : MaterialGraph) (root : NodeId) (ids : List SlotId) :
    Except GraphError (List SlotId) := do
  return (← g.node root).presentSlots ids

end MaterialGraph

end PassForge
