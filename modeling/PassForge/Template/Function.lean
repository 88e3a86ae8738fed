import PassForge.Template.Argument

/-!
# Functions that are always there

`range` counts, `dict` makes a map, `namespace` a value whose parts can be set, and `debug` shows
values.
-/

namespace PassForge.Template

/-! ### Ranges -/

/-- The most items a range can have. -/
def maxRange : Nat := 100000

/-- The numbers from `first` to `last`, exclusive, at distance `step`: downwards if that is
negative. -/
def spacedRange (first last step : Int) : Except EvalFault Value :=
  if step = 0 then .error .zeroStep
  else
    let span := if 0 < step then last - first else first - last
    let count := (span.toNat + (step.natAbs - 1)) / step.natAbs
    if maxRange < count then .error .longRange
    else
      let numbers := (List.range count).map fun i : Nat => Value.number (first + i * step)
      .ok (.list (.gathered 0) numbers)

/-- The list of numbers from the first argument to the second, exclusive, at the distance of the
third; with one argument, up to that from zero. -/
def range (args : List Value) : Except EvalFault Value := do
  let lower ← required args 0 asDistance
  let upper ← optional args 1 asDistance
  let step ← optional args 2 asDistance
  atMost 3 args
  match upper with
  | some upper => spacedRange lower upper (step.getD 1)
  | none => spacedRange 0 lower (step.getD 1)

/-! ### Values with names -/

/-- A map with the entries of another and those passed by name. -/
def dict (s : Sight) (args : Arguments) : Except EvalFault Value :=
  match args.values with
  | [] => .ok (.ofEntries args.named)
  | [v] =>
    match s.glance v with
    | .undefined | .absent | .none => .ok (.ofEntries args.named)
    | v =>
      match v.entries? with
      | some entries => .ok (.ofEntries (entries ++ args.named))
      | none => .error .noDetail
  | _ => .error .tooManyArguments

/-- The parts that a value whose parts can be set starts with: those of a map that have a name. -/
def spaceEntries (s : Sight) (args : List Value) : Except EvalFault (List (Value × Value)) :=
  match args with
  | [] => .ok []
  | [v] =>
    match s.glance v with
    | .undefined | .absent | .none => .ok []
    | v =>
      match v.entries? with
      | some entries => .ok (Value.sortedEntries (entries.filter (·.1.string?.isSome)))
      | none => .error (.refused s!"expected object or keyword arguments, got {v.kind}")
  | _ => .error .tooManyArguments

/-- The text that shows a value, or several as a list. -/
def debugText (s : Sight) (args : List Value) : String :=
  match args.map s.view with
  | [v] => v.listing ""
  | vs => (Value.list .stored vs).listing ""

end PassForge.Template
