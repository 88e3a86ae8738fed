import PassForge.Graph.Requirements
import PassForge.Graph.ValueType
import PassForge.Keyword.Group
import PassForge.Text.Identifier

/-!
# Nodes

A node is a unit of generated code: typed input and output slots, requirements, a piece of code, and
functions and property declarations that it shares with other nodes.

A node can choose between its inputs by keyword.  It then has a list of switches; each is a group of
mutually exclusive options, and each option routes to an input.  `Switch.selected` is the input a
switch chooses under a set of active keywords, and `Node.inputsFor` are the inputs that count then:
those that no switch routes, and those that a switch routing them has chosen.
-/

namespace PassForge

/-- The number of a slot, unique within its node. -/
abbrev SlotId := Nat

/-- Whether a slot takes or gives a value. -/
inductive Direction where
  | input | output
deriving DecidableEq, Repr

/-- The direction in words. -/
def Direction.name : Direction → String
  | input => "input"
  | output => "output"

/-- A place on a node where a value enters or leaves. -/
structure Slot where
  id : SlotId
  name : String
  direction : Direction
  type : ValueType
  /-- The literal to use when nothing is connected, if not zero. -/
  default : Option String
deriving DecidableEq, Repr

namespace Slot

/-- The literal to use when nothing is connected. -/
def literal (s : Slot) : String := s.default.getD s.type.zero

/-- Whether values enter here. -/
def isInput (s : Slot) : Bool := s.direction == .input

end Slot

/-! ### Tables of slots -/

/-- Puts a slot in place of the one with its number, or at the end. -/
def putSlot (s : Slot) : List Slot → List Slot
  | [] => [s]
  | t :: rest => if t.id = s.id then s :: rest else t :: putSlot s rest

theorem map_id_putSlot (s : Slot) (l : List Slot) :
    (putSlot s l).map Slot.id =
      if s.id ∈ l.map Slot.id then l.map Slot.id else l.map Slot.id ++ [s.id] := by
  induction l with
  | nil => rfl
  | cons t rest ih =>
    rw [List.map_cons]
    by_cases h : t.id = s.id
    · simp [putSlot, h]
    · have h' : s.id ≠ t.id := fun e => h e.symm
      by_cases hm : s.id ∈ rest.map Slot.id
      · rw [if_pos hm] at ih
        rw [if_pos (List.mem_cons_of_mem _ hm)]
        simp [putSlot, h, ih]
      · rw [if_neg hm] at ih
        rw [if_neg (by simpa [h'] using hm)]
        simp [putSlot, h, ih]

/-- The slots of a node, in the order they were first added. -/
structure SlotTable where
  slots : List Slot
  /-- Every number is used once. -/
  distinct : (slots.map Slot.id).Nodup
deriving Repr

namespace SlotTable

/-- No slot. -/
def empty : SlotTable := ⟨[], List.nodup_nil⟩

/-- Adds a slot; one with the same number is replaced where it stands. -/
def put (t : SlotTable) (s : Slot) : SlotTable where
  slots := putSlot s t.slots
  distinct := by
    rw [map_id_putSlot]
    split
    · exact t.distinct
    · next h =>
      refine List.nodup_append.2 ⟨t.distinct, by simp, fun a ha b hb hab => h ?_⟩
      rw [List.mem_singleton] at hb
      exact hb ▸ hab ▸ ha

/-- The table of a list of slots, added in turn. -/
def ofList (l : List Slot) : SlotTable := l.foldl put empty

end SlotTable

/-! ### Switches -/

/-- An option of a switch and the input it leads to. -/
structure Route where
  option : String
  slot : SlotId
deriving DecidableEq, Repr

/-- A choice between inputs by keyword. -/
structure Switch where
  routes : List Route
deriving DecidableEq, Repr

namespace Switch

/-- The group of options of a switch. -/
def group (s : Switch) : KeywordGroup := .ofOptions (s.routes.map Route.option)

/-- The first route whose keyword is active. -/
def activeRoute? (s : Switch) (active : KeywordSet) : Option Route :=
  s.routes.find? fun r => r.option != defaultOption && active.contains r.option

/-- The first route of the default option. -/
def defaultRoute? (s : Switch) : Option Route := s.routes.find? (·.option == defaultOption)

/-- The input chosen under a set of active keywords. -/
def selected (s : Switch) (active : KeywordSet) : Option SlotId :=
  ((s.activeRoute? active).or s.defaultRoute?).map Route.slot

/-- Whether some option leads to an input. -/
def leadsTo (s : Switch) (slot : SlotId) : Bool := s.routes.any (·.slot == slot)

end Switch

/-! ### Nodes -/

/-- A function that nodes share, identified by its name. -/
structure NodeFunction where
  name : String
  source : String
deriving DecidableEq, Repr

/-- A unit of generated code. -/
structure Node where
  name : String
  /-- The number of nodes added to the graph before this one. -/
  serial : Nat
  table : SlotTable
  requirements : Requirements
  /-- The code, in which `$` and a slot's name stand for the slot's value. -/
  code : Option String
  functions : List NodeFunction
  /-- Declarations of uniform inputs, one line each. -/
  properties : List String
  /-- The switches, if the node can choose by keyword. -/
  switches : Option (List Switch)
deriving Repr

namespace Node

/-- The slots of a node. -/
def slots (n : Node) : List Slot := n.table.slots

/-- The slot with a number. -/
def slot? (n : Node) (id : SlotId) : Option Slot := n.slots.find? (·.id == id)

/-- The slots where values enter. -/
def inputs (n : Node) : List Slot := n.slots.filter Slot.isInput

/-- The slots where values leave. -/
def outputs (n : Node) : List Slot := n.slots.filter fun s => !s.isInput

/-- The groups of options a node declares. -/
def groups (n : Node) : List KeywordGroup := (n.switches.getD []).map Switch.group

/-- Whether an input counts under a set of active keywords. -/
def follows (switches : List Switch) (active : KeywordSet) (id : SlotId) : Bool :=
  let routing := switches.filter (·.leadsTo id)
  routing.isEmpty || routing.any (·.selected active == some id)

/-- The inputs that count under a set of active keywords, in the order of the node's slots. -/
def inputsFor (n : Node) (active : KeywordSet) : List SlotId :=
  match n.switches with
  | none => n.inputs.map Slot.id
  | some switches => (n.inputs.map Slot.id).filter (follows switches active)

/-- The inputs that count, under a set of keywords if one is given. -/
def inputsUnder (n : Node) : Option KeywordSet → List SlotId
  | none => n.inputs.map Slot.id
  | some active => n.inputsFor active

/-- The variable that holds the value of a slot. -/
def variableName (n : Node) (s : Slot) : String :=
  Text.sanitize n.name ++ "_" ++ toString n.serial ++ "_" ++ Text.sanitize s.name

/-- The slots out of a list of numbers that the node has, each once, in the order of the list. -/
def presentSlots (n : Node) (ids : List SlotId) : List SlotId :=
  (ids.filter fun id => (n.slot? id).isSome).eraseDups

/-- The numbers out of a list that are no slots of the node. -/
def absentSlots (n : Node) (ids : List SlotId) : List SlotId :=
  ids.filter fun id => (n.slot? id).isNone

end Node

end PassForge
