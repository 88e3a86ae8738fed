import PassForge.Template.Filter.Text
import PassForge.Template.Order
import PassForge.Text.Number

/-!
# Filters on numbers

Texts are read as numbers by `int` and `float`.  A number with a point that becomes a whole one is
cut at its point, and at the ends of a signed word of 128 bits.
-/

namespace PassForge.Template

namespace Filter

/-- Whole numbers of 128 bits with a sign are below this one, and not below its negative. -/
def wholeEnd : Int := 170141183460469231731687303715884105728

/-- A number with a point, cut at its point. -/
def cutAtPoint (x : Float) : Int :=
  match Text.Binary.ofFloat? x with
  | some b =>
    let size : Nat :=
      if 0 ≤ b.exponent then b.significand * Nat.pow 2 b.exponent.toNat
      else b.significand / Nat.pow 2 (-b.exponent).toNat
    max (-wholeEnd) (min (wholeEnd - 1) (if b.negative then -(size : Int) else size))
  | none => if x.isNaN then 0 else if x < 0 then -wholeEnd else wholeEnd - 1

/-- A number as it is read. -/
def ofReal : Text.Real → Float
  | .finite negative significand exponent =>
    let size := (Value.ofFraction significand exponent).float?.getD 0
    if negative then -size else size
  | .infinite negative => if negative then -1.0 / 0.0 else 1.0 / 0.0
  | .notNumber => 0.0 / 0.0

/-- The number with a point that a text stands for. -/
def realOf (text : String) : Except EvalFault Float :=
  match Text.readReal? text.toList with
  | some x => .ok (ofReal x)
  | none =>
    .error (.refused (if text.isEmpty then "cannot parse float from empty string"
      else "invalid float literal"))

/-- The whole number that a text stands for, or the number with a point cut at its point. -/
def wholeOf (text : String) : Except EvalFault Int :=
  match Text.readInt? text.toList with
  | some n =>
    if -wholeEnd ≤ n && n < wholeEnd then .ok n else cutAtPoint <$> realOf text
  | none => cutAtPoint <$> realOf text

/-- A value as a whole number. -/
def int : Filter := fun _ v args => do
  atMost 0 args.all
  match v with
  | .undefined | .absent | .none => return .number 0
  | .bool b => return .number (if b then 1 else 0)
  | .number _ | .wide _ => return v
  | .fraction x => return .number (cutAtPoint x)
  | .string text | .marked text => return .number (← wholeOf text)
  | v => .error (.refused s!"cannot convert {v.kind} to integer")

/-- A value as a number with a point. -/
def float : Filter := fun _ v args => do
  atMost 0 args.all
  match v with
  | .undefined | .absent | .none => return .fraction 0
  | .string text | .marked text => return .fraction (← realOf text)
  | v =>
    match v.float? with
    | some x => return .fraction x
    | none => .error (.refused s!"cannot convert {v.kind} to float")

/-- A number without its sign. -/
def abs : Filter := fun _ v args => do
  atMost 0 args.all
  match v with
  | .number n =>
    if n = -wholeEnd then .error (.refused "overflow on abs") else return .number n.natAbs
  | .wide n => return .wide n
  | .fraction x => return .fraction x.abs
  | _ => .error (.refused "cannot get absolute value")

/-- A number times a power of another one, by squaring.  `bits` bounds the binary digits of the
exponent. -/
def timesPower (result x : Float) : (bits exponent : Nat) → Float
  | 0, _ => result
  | bits + 1, exponent =>
    let result := if exponent % 2 = 1 then result * x else result
    if exponent < 2 then result else timesPower result (x * x) bits (exponent / 2)

/-- A power of ten. -/
def powerOfTen (exponent : Int) : Float :=
  let size := timesPower 1 10 33 exponent.natAbs
  if exponent < 0 then 1 / size else size

/-- A number with a point, rounded to a number of places behind it. -/
def round : Filter := fun _ v args => do
  let places ← optional args.all 0 asShort
  atMost 1 args.all
  match v with
  | .number _ | .wide _ => return v
  | .fraction x =>
    let scale := powerOfTen (places.getD 0)
    return .fraction ((scale * x).round / scale)
  | v => .error (.refused s!"cannot round value ({v.kind})")

/-- The filters on numbers, by name. -/
def forNumbers : List (String × Filter) :=
  [("int", int), ("float", float), ("abs", abs), ("round", round)]

end Filter

end PassForge.Template
