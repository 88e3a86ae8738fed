import PassForge.Graph.Walker
import PassForge.Variant.Enumeration

/-!
# Enumerating with borrowed buffers

An enumerator collects keyword groups with a walker of its own and enumerates their variants, any
number of times.  The nodes of a walk and the positions of the odometer are buffers that it borrows.
The positions start from what is in the buffer, filled up with zeros; if they do not fit the groups,
there is no answer.
-/

namespace PassForge

/-- The wheel of a group at a position, if the group has so many options. -/
def Wheel.at? (g : KeywordGroup) (i : Nat) : Option Wheel :=
  if h : i < g.options.length then some ⟨g.options, ⟨i, h⟩⟩ else none

/-- The wheels of groups at their positions. -/
def wheelsAt? : List KeywordGroup → List Nat → Option (List Wheel)
  | g :: groups, i :: positions => do
    let w ← Wheel.at? g i
    let wheels ← wheelsAt? groups positions
    return w :: wheels
  | _, _ => some []

/-- A list cut, or filled up with zeros, to a length. -/
def resized (n : Nat) (l : List Nat) : List Nat := l.take n ++ List.replicate (n - l.length) 0

/-- Keyword groups, and the buffers to collect them and to enumerate their variants. -/
structure Enumerator where
  walker : Walker
  /-- The groups found so far. -/
  groups : GroupTable
  /-- The number of variants allowed. -/
  limit : Nat
  /-- Buffers for the nodes of a walk. -/
  nodes : BufferPool (List NodeId)
  /-- Buffers for the positions of the wheels. -/
  positions : BufferPool (List Nat)
deriving Repr

namespace Enumerator

/-- An enumerator without groups. -/
def new (walker : Walker) (limit : Nat) : Enumerator := ⟨walker, .empty, limit, .empty, .empty⟩

/-- The enumerator with new pools. -/
def renewed (e : Enumerator) : Enumerator :=
  { e with walker := .new e.walker.graph, nodes := .empty, positions := .empty }

/-- Adds the groups that the nodes declare which a root needs through some of its slots. -/
def collectGroups (e : Enumerator) (root : NodeId) (slots : List SlotId) :
    Except GraphError Unit × Enumerator :=
  let (buffer, nodes) := e.nodes.acquire
  match e.walker.collect root ⟨some slots, none⟩ buffer with
  | (.error err, walker) =>
    (.error err, { e with walker := walker, nodes := nodes.release buffer })
  | (.ok ids, walker) =>
    let declared := (ids.filterMap walker.graph.node?).flatMap Node.groups
    (.ok (), { e with walker := walker, groups := e.groups.insertAll declared,
                      nodes := nodes.release ids })

/-- The variants of the groups, unless there are more combinations than allowed. -/
def enumerate (e : Enumerator) : Option (Except VariantLimit VariantSet × Enumerator) :=
  if e.limit < e.groups.productSize then
    some (.error ⟨e.groups.productSize, e.limit⟩, e)
  else do
    let groups := e.groups.completed.groups
    let (buffer, positions) := e.positions.acquire
    let wheels ← wheelsAt? groups (resized groups.length buffer)
    let (found, odometer) := Odometer.runOut wheels.reverse .empty
    return (.ok found, { e with positions := positions.release odometer.positions })

/-! ### Calls -/

/-- What an enumerator and its walker are asked for. -/
inductive Call where
  | walk (root : NodeId) (gate : Gate) (initial : List NodeId)
  | collectGroups (root : NodeId) (slots : List SlotId)
  | enumerate
deriving DecidableEq, Repr

/-- What is seen of a call. -/
inductive Answer where
  | nodes (result : Except GraphError (List NodeId))
  | groups (result : Except GraphError Unit)
  | variants (result : Except VariantLimit VariantSet)

/-- Answers a call. -/
def call (e : Enumerator) : Call → Option (Answer × Enumerator)
  | .walk root gate initial =>
    let (result, walker) := e.walker.collect root gate initial
    some (.nodes result, { e with walker := walker })
  | .collectGroups root slots =>
    let (result, e) := e.collectGroups root slots
    some (.groups result, e)
  | .enumerate => do
    let (result, e) ← e.enumerate
    return (.variants result, e)

/-- Answers calls in turn. -/
def callAll (e : Enumerator) : List Call → Option (List Answer × Enumerator)
  | [] => some ([], e)
  | c :: calls => do
    let (answer, e) ← e.call c
    let (answers, e) ← e.callAll calls
    return (answer :: answers, e)

end Enumerator

end PassForge
