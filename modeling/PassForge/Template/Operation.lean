import PassForge.Template.Arithmetic

/-!
# Operations on template values

The operations of expressions, and the places where an undefined operand is a fault.

Operations on values that are known beforehand are carried out when a template is read.  They give
what they give when it is rendered, but for `and`: it gives the second value if both count as true,
and false otherwise (`fold?`).
-/

namespace PassForge.Template

/-- A comparison. -/
inductive Comparison where
  | equal | notEqual | less | lessEqual | greater | greaterEqual
  /-- Whether the second value contains the first. -/
  | within
  | notWithin
deriving DecidableEq, Repr

/-- An operation on two operands. -/
inductive BinaryOp where
  | or | and | add | subtract | concat | multiply | divide | wholeDivide | remainder | power
deriving DecidableEq, Repr

/-- An operation on one operand. -/
inductive UnaryOp where
  | not | negate
deriving DecidableEq, Repr

namespace Value

/-- Two values joined as texts. -/
def concat (v w : Value) : Except EvalFault Value := do
  let s ← v.text
  let t ← w.text
  return string (s ++ t)

/-- Whether a text stands in another. -/
def textWithin (part whole : List Char) : Bool :=
  match whole with
  | [] => part.isEmpty
  | _ :: rest => part.isPrefixOf whole || textWithin part rest

/-- Whether a value contains another: a string a text, a list an item, a map a key. -/
def contains (container v : Value) : Except EvalFault Bool :=
  match container with
  | undefined | absent => .ok false
  | string s | marked s => .ok (textWithin v.plainText.toList s.toList)
  | list _ items => .ok (items.any (·.same v))
  | map entries => .ok (underKey? entries v).isSome
  | record _ parts => .ok (underKey? parts v).isSome
  | pass => .ok (v.string? == some "name")
  | function _ | object _ => .ok false
  | _ => .error .noContainer

end Value

/-- The result of a comparison. -/
def Comparison.apply (c : Comparison) (v w : Value) : Except EvalFault Bool :=
  if v matches .undefined || w matches .undefined then .error .undefinedValue
  else match c with
    | equal => .ok (v.same w)
    | notEqual => .ok !(v.same w)
    | less => .ok (v.order w == .lt)
    | lessEqual => .ok (v.order w != .gt)
    | greater => .ok (v.order w == .gt)
    | greaterEqual => .ok (v.order w != .lt)
    | within => w.contains v
    | notWithin => (! ·) <$> w.contains v

namespace BinaryOp

/-- The result if the first operand settles it. -/
def settled? (op : BinaryOp) (v : Value) : Except EvalFault (Option Value) :=
  match op with
  | and => do return if ← v.truth then none else some v
  | or => do return if ← v.truth then some v else none
  | _ => .ok none

/-- The result if both operands count. -/
def apply (op : BinaryOp) (v w : Value) : Except EvalFault Value :=
  match op with
  | and => .ok w
  | or => .ok w
  | add => v.sum w
  | subtract => v.difference w
  | concat => v.concat w
  | multiply => v.product w
  | divide => v.quotient w
  | wholeDivide => v.wholeQuotient w
  | remainder => v.remainder w
  | power => v.power w

/-- The result on two constants, if there is one. -/
def fold? (op : BinaryOp) (v w : Value) : Option Value :=
  match op with
  | and => do
    let a ← v.truth.toOption
    let b ← w.truth.toOption
    return if a && b then w else .bool false
  | or => do return if ← v.truth.toOption then v else w
  | _ => (op.apply v w).toOption

end BinaryOp

/-- The result of an operation on one operand. -/
def UnaryOp.apply (op : UnaryOp) (v : Value) : Except EvalFault Value :=
  match op with
  | not => do return .bool !(← v.truth)
  | negate => v.negative

end PassForge.Template
