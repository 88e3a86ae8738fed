import PassForge.Graph.Basic

/-!
# Placeholders

In the code of a node, `$` and the name of a slot stand for the slot's value: for an input, the
variable of the output that feeds it, or a literal if nothing does; for an output, the node's own
variable.  A slot is named by the identifier its name turns into; of several, the first counts.  A
placeholder extends over as many letters, digits and underscores as follow; one that names no slot
stays as it is, and inserted text is not looked at again.

The result is a list of pieces, which say where each part of the text comes from.
-/

namespace PassForge

/-- A part of generated code. -/
inductive Piece where
  /-- Text that was there. -/
  | verbatim (text : String)
  /-- The variable of an output of another node. -/
  | fed (node : NodeId) (variableName : String)
  /-- The literal of an input that nothing feeds. -/
  | literal (text : String)
  /-- A variable of the node itself. -/
  | own (variableName : String)
deriving DecidableEq, Repr

namespace Piece

/-- The text of a piece. -/
def text : Piece → String
  | verbatim text => text
  | fed _ name => name
  | literal text => text
  | own name => name

/-- The text of pieces in a row. -/
def join (pieces : List Piece) : String := String.join (pieces.map text)

end Piece

namespace MaterialGraph

variable (g : MaterialGraph) (id : NodeId) (n : Node)

/-- The node and the slot that feed an input, if both exist. -/
def feeding? (slot : SlotId) : Option (NodeId × Node × Slot) := do
  let source ← g.source? ⟨id, slot⟩
  let node ← g.node? source.node
  let output ← node.slot? source.slot
  return (source.node, node, output)

/-- The value of an input. -/
def inputValue (slot : SlotId) : Piece :=
  match g.feeding? id slot with
  | some (feeder, node, output) => .fed feeder (node.variableName output)
  | none => .literal (((n.slot? slot).map Slot.literal).getD "")

/-- The slot that a placeholder names. -/
def namedSlot? (name : List Char) : Option Slot :=
  if name.isEmpty then none
  else n.slots.find? fun s => (Text.sanitize s.name).toList == name

/-- What a placeholder turns into. -/
def placeholder (name : List Char) : Piece :=
  match namedSlot? n name with
  | none => .verbatim (String.ofList ('$' :: name))
  | some s => if s.isInput then g.inputValue id n s.id else .own (n.variableName s)

/-- The pieces of a code in which placeholders have been replaced. -/
def expandChars : List Char → List Piece
  | [] => []
  | c :: cs =>
    if c = '$' then
      g.placeholder id n (cs.takeWhile Text.isIdentifierChar) ::
        expandChars (cs.dropWhile Text.isIdentifierChar)
    else .verbatim (String.singleton c) :: expandChars cs
termination_by cs => cs.length
decreasing_by
  · exact Nat.lt_succ_of_le (List.dropWhile_sublist _).length_le
  · exact Nat.lt_succ_self _

/-- The pieces of a code in which placeholders have been replaced. -/
def expand (code : String) : List Piece := g.expandChars id n code.toList

end MaterialGraph

end PassForge
