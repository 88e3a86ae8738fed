import PassForge.Template.Order

/-!
# Arithmetic of template values

Numbers are whole, with a sign and 128 bits, unless one of them has a point.  Quotients always have
a point; `//` and `%` go by the Euclidean quotient, whose remainder is not negative.

Strings and lists can be joined by `+` and repeated by `*`.  A text of more than `maxRepeated` bytes
is not made that way.
-/

namespace PassForge.Template

namespace Value

/-- Numbers from this one on take more than 127 bits. -/
def signedLimit : Int := 170141183460469231731687303715884105728

/-- An unsigned word of 128 bits, the first of them read as a sign. -/
def signed (n : Nat) : Int := if signedLimit ≤ n then n - 2 * signedLimit else n

/-- Two numbers to calculate with. -/
inductive Operands where
  | whole (a b : Int)
  | real (x y : Float)

/-- The numbers that two values stand for.  Two wide numbers are both read with a sign; otherwise a
number of 128 bits is no operand. -/
def operands? : Value → Value → Option Operands
  | wide a, wide b => some (.whole (signed a) (signed b))
  | fraction x, w => (float? w).map (.real x)
  | v, fraction y => (float? v).map (.real · y)
  | v, w => do
    let a ← v.int?
    let b ← w.int?
    if a < signedLimit && b < signedLimit then some (.whole a b) else Option.none

/-- A whole number, if it has at most 128 bits with its sign. -/
def inRange? (n : Int) : Option Value :=
  if -signedLimit ≤ n && n < signedLimit then some (number n) else Option.none

/-- Calculates with two values.  A whole result is missing if it is too large. -/
def calculate (op : String) (whole : Int → Int → Option Int) (real : Float → Float → Float)
    (v w : Value) : Except EvalFault Value :=
  match operands? v w with
  | some (.whole a b) =>
    match (whole a b).bind inRange? with
    | some result => .ok result
    | Option.none => .error (.overflow op v.quoted w.quoted)
  | some (.real x y) => .ok (fraction (real x y))
  | Option.none => .error (.unsupported op v.kind w.kind)

/-- The sum of two values: numbers are added, strings and lists are joined. -/
def sum (v w : Value) : Except EvalFault Value :=
  match v.string?, w.string? with
  | some s, some t => .ok (string (s ++ t))
  | _, _ =>
    match v, w with
    | list form as, list form' bs => .ok (list (form.join form') (as ++ bs))
    | v, w => calculate "+" (fun a b => some (a + b)) (· + ·) v w

/-- The difference of two numbers. -/
def difference : Value → Value → Except EvalFault Value :=
  calculate "-" (fun a b => some (a - b)) (· - ·)

/-- The number of times that something is repeated. -/
def times? (v : Value) : Option Nat := do
  let n ← v.int?
  if n < 0 || (wordLimit : Int) ≤ n then Option.none else some n.toNat

/-- The most bytes of a text that is made by repeating another. -/
def maxRepeated : Nat := 100000000

/-- A string repeated. -/
def repeatedText (count : Value) (s : String) : Except EvalFault Value :=
  match times? count with
  | some n =>
    if s.isEmpty then .ok (string "")
    else if maxRepeated < s.utf8ByteSize * n then .error .longText
    else .ok (string ("".intercalate (List.replicate n s)))
  | Option.none => .error .textFactor

/-- A list repeated. -/
def repeatedItems (count : Value) (items : List Value) : Except EvalFault Value :=
  match times? count with
  | some n => .ok (list (.gathered 0) (List.replicate n items).flatten)
  | Option.none => .error .listFactor

/-- The product of two values: numbers are multiplied, strings and lists are repeated. -/
def product (v w : Value) : Except EvalFault Value :=
  match v.string?, w.string? with
  | some s, _ => repeatedText w s
  | Option.none, some t => repeatedText v t
  | Option.none, Option.none =>
    match v, w with
    | list _ items, w => repeatedItems w items
    | v, list _ items => repeatedItems v items
    | v, w => calculate "*" (fun a b => some (a * b)) (· * ·) v w

/-- The quotient of two numbers, with a point. -/
def quotient (v w : Value) : Except EvalFault Value :=
  match v.float?, w.float? with
  | some x, some y => .ok (fraction (x / y))
  | _, _ => .error (.unsupported "/" v.kind w.kind)

/-- A number with a point, without what stands behind it. -/
def truncated (x : Float) : Float := if x < 0 then x.ceil else x.floor

/-- What is left of `x` after as many steps of size `y` towards zero as fit, exactly.  It has the
sign of `x`. -/
def floatRest (x y : Float) : Float :=
  match Text.Binary.ofFloat? x, Text.Binary.ofFloat? y with
  | some a, some b =>
    if b.significand = 0 then 0.0 / 0.0
    else
      let unit := min a.exponent b.exponent
      let whole := a.significand * Nat.pow 2 (a.exponent - unit).toNat
      let step := b.significand * Nat.pow 2 (b.exponent - unit).toNat
      let rest := Float.scaleB (Float.ofNat (whole % step)) unit
      if a.negative then -rest else rest
  | some _, Option.none => if y.isNaN then y else x
  | Option.none, _ => 0.0 / 0.0

/-- The number of steps of size `y` to `x` that leave a rest which is not negative. -/
def floatSteps (x y : Float) : Float :=
  let steps := truncated (x / y)
  if floatRest x y < 0 then (if 0 < y then steps - 1 else steps + 1) else steps

/-- The Euclidean quotient of two numbers. -/
def wholeQuotient : Value → Value → Except EvalFault Value :=
  calculate "//" (fun a b => if b = 0 then Option.none else some (a / b)) floatSteps

/-- The Euclidean remainder of two numbers; with a point, the rest has the sign of the first. -/
def remainder : Value → Value → Except EvalFault Value :=
  calculate "%" (fun a b => if b = 0 then Option.none else some (a % b)) floatRest

/-- A whole power, unless it is clear that it is too large. -/
def wholePower? (a b : Int) : Option Int :=
  if b < 0 || 4294967296 ≤ b then Option.none
  else if a.natAbs ≤ 1 then some (if b = 0 then 1 else if b % 2 = 0 then a * a else a)
  else if 127 < b then Option.none
  else some (Int.pow a b.toNat)

/-- The power of two numbers. -/
def power : Value → Value → Except EvalFault Value := calculate "**" wholePower? Float.pow

/-- The negative of a number.  The smallest whole number has none that is whole, and the largest
number that has a negative of 128 bits stays as it is. -/
def negative : Value → Except EvalFault Value
  | fraction x => .ok (fraction (-x))
  | number n => if n = -signedLimit then .error .negationOverflow else .ok (number (-n))
  | wide n =>
    if n < signedLimit then .ok (number (-n))
    else if n = signedLimit then .ok (wide n)
    else .error .noDetail
  | _ => .error .noDetail

end Value

end PassForge.Template
