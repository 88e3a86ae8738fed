import PassForge.Template.Value

/-!
# Items and slices

An item is asked for by its place, and a slice by the places it starts and ends at and the distance
between its items.  Negative places count from the end, and a negative distance goes backwards; a
slice that goes backwards to the first place includes it.  The characters of a string are its items.
-/

namespace PassForge.Template

/-- The item at a place of a list, if the key is a number. -/
def itemAt? (items : List Value) (key : Value) : Option Value := do
  let n ← key.int?
  let place := if n < 0 then items.length + n else n
  if place < 0 then none else items[place.toNat]?

/-- The places of a slice of `count` items, which is cut at the ends. -/
def slicePlaces (count : Nat) (first last : Option Int) (step : Int) : List Nat :=
  let place (default low high : Int) : Option Int → Int
    | none => default
    | some n => max low (min high (if n < 0 then n + count else n))
  if 0 < step then
    let start := place 0 0 count first
    let stop := place count 0 count last
    let size := ((stop - start).toNat + (step.natAbs - 1)) / step.natAbs
    (List.range size).map fun i : Nat => (start + i * step).toNat
  else
    let start := place (count - 1) 0 (count - 1) first
    let stop := place 0 0 count last
    let stop := if stop = 0 then -1 else stop
    let size := ((start - stop).toNat + (step.natAbs - 1)) / step.natAbs
    (List.range size).map fun i : Nat => (start + i * step).toNat

/-- The items of a slice. -/
def sliceItems (items : List Value) (first last : Option Int) (step : Int) : List Value :=
  let all := items.toArray
  (slicePlaces all.size first last step).filterMap (all[·]?)

/-- Bounds of slices are below this number, and not below its negative. -/
def placeLimit : Int := 9223372036854775808

/-- The number that a bound of a slice stands for.  It may be left out. -/
def sliceBound : Value → Except EvalFault (Option Int)
  | .none => .ok none
  | v =>
    match v.int? with
    | some n =>
      if -placeLimit ≤ n && n < placeLimit then .ok (some n) else .error (.notWord v.kind "i64")
    | none => .error (.notWord v.kind "i64")

/-- A slice of a string or list. -/
def slice (v first last step : Value) : Except EvalFault Value := do
  if v.isUndefined then .error .undefinedValue
  let first ← sliceBound first
  let last ← sliceBound last
  let step ← sliceBound step
  if step = some 0 then .error .zeroSlice
  let step := step.getD 1
  match v with
  | .string s | .marked s =>
    let chosen := sliceItems (Value.characters s) first last step
    return .string ("".intercalate (chosen.map Value.plainText))
  | .none => return .list .stored []
  | .list _ items => return .list (.gathered 0) (sliceItems items first last step)
  | v => .error (.notSliced v.kind)

end PassForge.Template
