import PassForge.Template.Context
import PassForge.Template.Slice
import PassForge.Template.Tree

/-!
# Objects

Some values can change while they are held in several places: the values whose parts can be set, the
loops, which go on from round to round, and the routines, which see what is set beside them later.
A `Heap` keeps them by number.

What an object is at the moment is again a value, its `snapshot`.  `Sight.glance` looks at a value
itself that way, and `Sight.view` also at all that stands in it.
-/

namespace PassForge.Template

/-! ### Loops -/

/-- A loop in one of its rounds. -/
structure LoopState where
  /-- The number of the round, from zero; after the last round, the number of rounds. -/
  index : Nat
  /-- The number of rounds, which is not known for everything that can be gone through. -/
  count : Option Nat
  /-- The number of times the loop has called itself. -/
  depth : Nat
  /-- The item before the current one. -/
  previous : Value
  /-- The item after the current one. -/
  next : Value
  /-- The values that the loop was last asked about. -/
  asked : Option (List Value)

namespace LoopState

/-- The text of a number of rounds. -/
def countText : Option Nat → String
  | some n => toString n
  | none => "?"

/-- What a loop says of itself.  What depends on an unknown number of rounds is undefined, but no
round of an unknown number is the last. -/
def parts (l : LoopState) : List (String × Value) :=
  let ofCount (f : Nat → Nat) : Value := (l.count.map fun n => .number (f n)).getD .undefined
  [("index0", .number l.index),
    ("index", .number (l.index + 1)),
    ("length", ofCount id),
    ("revindex", ofCount (· - l.index)),
    ("revindex0", ofCount (· - l.index - 1)),
    ("first", .bool (l.index == 0)),
    ("last", .bool (l.count.any fun n => n == 0 || l.index == n - 1)),
    ("depth", .number (l.depth + 1)),
    ("depth0", .number l.depth),
    ("previtem", l.previous),
    ("nextitem", l.next)]

/-- A loop as it is now. -/
def snapshot (l : LoopState) : Value :=
  .record s!"<loop {l.index}/{countText l.count}>" (l.parts.map fun (name, v) => (.string name, v))

end LoopState

/-! ### Routines -/

/-- A body that can be rendered by calling it. -/
structure Routine where
  name : String
  parameters : List Parameter
  body : List Statement
  /-- The template it is written in. -/
  template : String
  /-- The number of the variables it can see, if it asks for any. -/
  closure : Option Nat
  /-- Whether it asks for the routine that a call is passed. -/
  usesCaller : Bool

/-- What a routine says of itself. -/
def Routine.snapshot (r : Routine) : Value :=
  .record s!"<macro {r.name}>"
    [(.string "name", .string r.name),
      (.string "arguments", .list .stored (r.parameters.map fun p => .string p.name)),
      (.string "caller", .bool r.usesCaller)]

/-! ### The heap -/

/-- What can change. -/
inductive Object where
  /-- A value whose parts can be set. -/
  | space (entries : List (Value × Value))
  | loop (state : LoopState)
  | routine (r : Routine)

/-- An object as it is now. -/
def Object.snapshot : Object → Value
  | space entries => .map entries
  | loop state => state.snapshot
  | routine r => r.snapshot

/-- The objects by number, and the variables that routines can see. -/
structure Heap where
  objects : Array Object
  /-- The variables that routines can see, by the place they are defined in. -/
  closures : Array (List (String × Value))

namespace Heap

/-- No objects. -/
def empty : Heap := ⟨#[], #[]⟩

/-- The heap with one more object, and the value that stands for it. -/
def alloc (h : Heap) (o : Object) : Value × Heap :=
  (.object h.objects.size, { h with objects := h.objects.push o })

/-- Replaces an object. -/
def set (h : Heap) (id : Nat) (o : Object) : Heap :=
  { h with objects := h.objects.setIfInBounds id o }

/-- The object with a number, as it is now. -/
def snapshot (h : Heap) (id : Nat) : Value :=
  match h.objects[id]? with
  | some o => o.snapshot
  | none => .undefined

/-- The object with a number and all that stands in it, `depth` objects deep. -/
def shown (h : Heap) : Nat → Nat → Value
  | 0, id => .object id
  | depth + 1, id => (h.snapshot id).replaceObjects (h.shown depth)

/-- What a name stands for in a closure. -/
def captured? (h : Heap) (closure : Nat) (name : String) : Option Value :=
  h.closures[closure]?.bind (·.lookup name)

/-- Sets a name in a closure. -/
def capture (h : Heap) (closure : Nat) (name : String) (v : Value) : Heap :=
  { h with closures := h.closures.modify closure ((name, v) :: ·) }

/-- Sets a name in a closure that has no such name. -/
def captureNew (h : Heap) (closure : Nat) (name : String) (v : Value) : Heap :=
  if (h.captured? closure name).isSome then h else h.capture closure name v

/-- The heap with one more closure, which is empty, and its number. -/
def addClosure (h : Heap) : Nat × Heap :=
  (h.closures.size, { h with closures := h.closures.push [] })

end Heap

/-! ### Looking at values -/

/-- What values stand for at the moment. -/
structure Sight where
  ctx : Context
  heap : Heap

namespace Sight

variable (s : Sight)

/-- A value, or what an object is now. -/
def glance : Value → Value
  | .object id => s.heap.snapshot id
  | v => v

/-- A value with all that stands in it as it is now. -/
def view (v : Value) : Value :=
  if v.hasObject then v.replaceObjects (s.heap.shown s.heap.objects.size) else v

/-- A part of a list that is the result of grouping. -/
def groupPart? (items : List Value) (key : Value) : Option Value :=
  match key.string? with
  | some "grouper" => items[0]?
  | some "list" => items[1]?
  | _ => none

/-- A part of a value, if it has it. -/
def part? (key v : Value) : Option Value :=
  match s.glance v with
  | .list .group items => itemAt? items key <|> groupPart? items key
  | .list _ items => itemAt? items key
  | .string t | .marked t => itemAt? (Value.characters t) key
  | .map entries => Value.underKey? entries key
  | .record _ parts => Value.underKey? parts key
  | .pass => key.string?.bind s.ctx.part?
  | _ => none

/-- A part of a value.  A part that a value does not have is undefined. -/
def part (key v : Value) : Except EvalFault Value :=
  if v.isUndefined then .error .undefinedValue else .ok ((s.part? key v).getD .undefined)

/-- A part of a value by the names and numbers on the way to it, divided by dots. -/
def path (names : String) (v : Value) : Except EvalFault Value :=
  (names.splitOn ".").foldlM (fun v name =>
    s.part (if !name.isEmpty && name.all Char.isDigit then .number (name.toNat?.getD 0)
      else .string name) v) v

/-- The items a loop goes through. -/
def items (v : Value) : Except EvalFault (List Value) := (s.glance v).items

/-- Whether a value counts as true. -/
def truth (v : Value) : Except EvalFault Bool := (s.glance v).truth

/-- Whether a value counts as true; what is undefined does not. -/
def isTrue (v : Value) : Bool := (s.glance v).isTrue

/-- The text of a value. -/
def plainText (v : Value) : String := (s.view v).plainText

end Sight

end PassForge.Template
