import PassForge.Template.Value

/-!
# Equality and order of template values

Values are ordered by kind first, and then by content.  Equality is coarser: a truth value equals
the number it counts as, and two lists with the same items are equal whatever their form.

A whole number equals a number with a point only if it can be written with a point without loss.
In the order of numbers with a point, negative zero comes before zero, and what is no number before
all others.

Maps keep their entries in the order of their keys.
-/

namespace PassForge.Template

namespace Value

/-- The place of a kind in the order of values. -/
def kindRank : Value → Nat
  | undefined | absent => 0
  | none => 1
  | bool _ => 2
  | number _ | wide _ | fraction _ => 3
  | string _ | marked _ => 4
  | list form _ => if form.isIterator then 7 else 5
  | map _ | record .. | pass | object _ => 6
  | function _ => 8

/-! ### Numbers -/

/-- The order of a whole number and a finite number with a point. -/
def orderExactly (n : Int) (b : Text.Binary) : Ordering :=
  let m : Int := if b.negative then -b.significand else b.significand
  if 0 ≤ b.exponent then compare n (m * Nat.pow 2 b.exponent.toNat)
  else compare (n * Nat.pow 2 (-b.exponent).toNat) m

/-- The order of a whole number and a number with a point. -/
def orderWithFloat (n : Int) (x : Float) : Ordering :=
  match Text.Binary.ofFloat? x with
  | some b => orderExactly n b
  | Option.none => if x < 0 || x.isNaN then .gt else .lt

/-- Whether a number is the largest of its word: of 64 bits, of 128 bits with a sign, or of 128 bits
without one. -/
def isLargest : Value → Bool
  | number n => n == 18446744073709551615 || n == 170141183460469231731687303715884105727
  | wide n => n == 340282366920938463463374607431768211455
  | _ => false

/-- The number with a point that a value counts as, if nothing is lost.  The largest number of a
word counts as the power of two behind it. -/
def exactFloat? (v : Value) : Option Float :=
  match v with
  | fraction x => some x
  | v => do
    let n ← v.int?
    let x := Float.ofInt n
    if orderWithFloat n x == .eq || v.isLargest then some x else Option.none

/-- The order of two numbers with a point. -/
def orderFloats (x y : Float) : Ordering :=
  if x.isNaN then (if y.isNaN then .eq else .lt)
  else if y.isNaN then .gt
  else if x < y then .lt
  else if y < x then .gt
  else match Text.isNegative x, Text.isNegative y with
    | true, false => .lt
    | false, true => .gt
    | _, _ => .eq

/-- The order of two numbers. -/
def orderNumbers (v w : Value) : Ordering :=
  match v, w with
  | fraction x, fraction y => orderFloats x y
  | fraction x, w =>
    match w.exactFloat?, w.int? with
    | some y, _ => orderFloats x y
    | Option.none, some n => (orderWithFloat n x).swap
    | Option.none, Option.none => .eq
  | v, fraction y =>
    match v.exactFloat?, v.int? with
    | some x, _ => orderFloats x y
    | Option.none, some n => orderWithFloat n y
    | Option.none, Option.none => .eq
  | v, w =>
    match v.int?, w.int? with
    | some a, some b => compare a b
    | _, _ => .eq

/-- Whether two values count as the same number. -/
def sameNumber (v w : Value) : Bool :=
  if v matches fraction _ || w matches fraction _ then
    match v.exactFloat?, w.exactFloat? with
    | some x, some y => x == y
    | _, _ => false
  else match v.int?, w.int? with
    | some a, some b => a == b
    | _, _ => false

/-! ### Values -/

mutual

/-- The order of values: by kind, then by content. -/
def order : Value → Value → Ordering
  | list form as, list form' bs =>
    (compare (list form []).kindRank (list form' []).kindRank).then (orderItems as bs)
  | map as, map bs => orderEntries as bs
  | map as, record _ bs => orderEntries as bs
  | record _ as, map bs => orderEntries as bs
  | record _ as, record _ bs => orderEntries as bs
  | v, w =>
    (compare v.kindRank w.kindRank).then <|
      match v.string?, w.string? with
      | some s, some t => compare s t
      | _, _ =>
        match v, w with
        | function f, function g => compare f.text g.text
        | object i, object j => compare i j
        | pass, w => if (w.entries?.getD []).isEmpty then .eq else .lt
        | v, pass => if (v.entries?.getD []).isEmpty then .eq else .gt
        | v, w => orderNumbers v w

/-- The order of lists: by the first values that differ. -/
def orderItems : List Value → List Value → Ordering
  | [], [] => .eq
  | [], _ :: _ => .lt
  | _ :: _, [] => .gt
  | a :: as, b :: bs => (order a b).then (orderItems as bs)

/-- The order of maps: by the first entries that differ. -/
def orderEntries : List (Value × Value) → List (Value × Value) → Ordering
  | [], [] => .eq
  | [], _ :: _ => .lt
  | _ :: _, [] => .gt
  | (k, a) :: as, (l, b) :: bs =>
    (order k l).then ((order a b).then (orderEntries as bs))

end

mutual

/-- Whether two values are the same. -/
def same : Value → Value → Bool
  | list _ as, list _ bs => sameItems as bs
  | map as, map bs => sameEntries as bs
  | map as, record _ bs => sameEntries as bs
  | record _ as, map bs => sameEntries as bs
  | record _ as, record _ bs => sameEntries as bs
  | v, w =>
    match v.string?, w.string? with
    | some s, some t => s == t
    | _, _ =>
      match v, w with
      | none, none => true
      | function f, function g => f == g
      | object i, object j => i == j
      | pass, w => w.entries?.any List.isEmpty
      | v, pass => v.entries?.any List.isEmpty
      | v, w => (v.isUndefined && w.isUndefined) || sameNumber v w

/-- Whether two lists hold the same values. -/
def sameItems : List Value → List Value → Bool
  | [], [] => true
  | a :: as, b :: bs => same a b && sameItems as bs
  | _, _ => false

/-- Whether two maps hold the same values under the same keys. -/
def sameEntries : List (Value × Value) → List (Value × Value) → Bool
  | [], [] => true
  | (k, a) :: as, (l, b) :: bs => order k l == .eq && same a b && sameEntries as bs
  | _, _ => false

end

/-! ### Maps -/

/-- The entries of a map with one more; the value under a key that is there is replaced. -/
def insertEntry (key value : Value) : List (Value × Value) → List (Value × Value)
  | [] => [(key, value)]
  | (k, v) :: rest =>
    match key.order k with
    | .lt => (key, value) :: (k, v) :: rest
    | .eq => (k, value) :: rest
    | .gt => (k, v) :: insertEntry key value rest

/-- The entries, of which the last under a key counts, in the order of the keys. -/
def sortedEntries (entries : List (Value × Value)) : List (Value × Value) :=
  entries.foldl (fun m e => insertEntry e.1 e.2 m) []

/-- The map with these entries, of which the last under a key counts. -/
def ofEntries (entries : List (Value × Value)) : Value := map (sortedEntries entries)

/-- The value under a key. -/
def underKey? (entries : List (Value × Value)) (key : Value) : Option Value :=
  (entries.find? fun e => key.order e.1 == .eq).map (·.2)

end Value

end PassForge.Template
