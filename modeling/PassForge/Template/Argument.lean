import PassForge.Template.Heap

/-!
# Arguments

Arguments are passed in order or by name.  What knows no names takes the named arguments as a map
behind the others.

The readers of this file turn an argument into what is asked for.  An argument that may be left out
may also be none or undefined.
-/

namespace PassForge.Template

/-- The arguments of a call. -/
structure Arguments where
  /-- Those passed in order. -/
  values : List Value
  /-- Those passed by name. -/
  named : List (Value × Value)

namespace Arguments

/-- No arguments. -/
def empty : Arguments := ⟨[], []⟩

/-- All arguments, those with names as one map. -/
def all (args : Arguments) : List Value :=
  if args.named.isEmpty then args.values else args.values ++ [Value.ofEntries args.named]

/-- Arguments with one more. -/
def add (args : Arguments) (s : Sight) (passing : Passing) (v : Value) :
    Except EvalFault Arguments :=
  match passing with
  | .inOrder => .ok { args with values := args.values ++ [v] }
  | .named name => .ok { args with named := args.named ++ [(.string name, v)] }
  | .spread => do return { args with values := args.values ++ (← s.items v) }
  | .spreadNamed =>
    match (s.glance v).entries? with
    | some entries => .ok { args with named := args.named ++ entries }
    | none => .error (.notIterable v.kind)

end Arguments

/-! ### What arguments stand for -/

/-- A string. -/
def asString (v : Value) : Except EvalFault String :=
  match v.string? with
  | some s => .ok s
  | none => .error .notString

/-- A whole number from `low` on and below `high`, which is called `word`. -/
def asWord (word : String) (low high : Int) (v : Value) : Except EvalFault Int :=
  match v.int? with
  | some n => if low ≤ n && n < high then .ok n else .error (.notWord v.kind word)
  | none => .error (.notWord v.kind word)

/-- A whole number of 64 bits with a sign, as a distance. -/
def asDistance : Value → Except EvalFault Int :=
  asWord "isize" (-9223372036854775808) 9223372036854775808

/-- A whole number of 64 bits with a sign. -/
def asLong : Value → Except EvalFault Int :=
  asWord "i64" (-9223372036854775808) 9223372036854775808

/-- A whole number of 32 bits with a sign. -/
def asShort : Value → Except EvalFault Int := asWord "i32" (-2147483648) 2147483648

/-- A size. -/
def asSize (v : Value) : Except EvalFault Nat :=
  return (← asWord "usize" 0 Value.wordLimit v).toNat

/-- A truth value. -/
def asTruth : Value → Except EvalFault Bool
  | .bool b => .ok b
  | v => .error (.notWord v.kind "bool")

/-! ### Arguments in order -/

/-- The argument at a place. -/
def required {α : Type} (args : List Value) (place : Nat) (read : Value → Except EvalFault α) :
    Except EvalFault α :=
  match args[place]? with
  | some v => read v
  | none => .error .missingArgument

/-- The argument at a place, which may be left out. -/
def optional {α : Type} (args : List Value) (place : Nat) (read : Value → Except EvalFault α) :
    Except EvalFault (Option α) :=
  match args[place]? with
  | none | some .none | some .undefined | some .absent => .ok none
  | some v => some <$> read v

/-- The text of the argument at a place, whatever its kind.  The map of the named arguments has
none. -/
def textAt? (s : Sight) (args : Arguments) (place : Nat) : Except EvalFault (Option String) :=
  match args.values[place]? with
  | some v => .ok (some (s.plainText v))
  | none =>
    if place = args.values.length && !args.named.isEmpty then
      .error (.refused "cannot convert kwargs to string")
    else .ok none

/-- The text of the argument at a place. -/
def requiredText (s : Sight) (args : Arguments) (place : Nat) : Except EvalFault String := do
  match ← textAt? s args place with
  | some text => return text
  | none => .error .missingArgument

/-- The text of the argument at a place, which may be left out. -/
def optionalText (s : Sight) (args : Arguments) (place : Nat) :
    Except EvalFault (Option String) :=
  match args.values[place]? with
  | some .none | some .undefined | some .absent => .ok none
  | _ => textAt? s args place

/-- Checks that there are at most `count` arguments. -/
def atMost (count : Nat) (args : List Value) : Except EvalFault Unit :=
  if count < args.length then .error .tooManyArguments else .ok ()

/-! ### Arguments by name -/

/-- The argument with a name, which may be left out. -/
def optionalNamed {α : Type} (named : List (Value × Value)) (name : String)
    (read : Value → Except EvalFault α) : Except EvalFault (Option α) :=
  match Value.underKey? named (.string name) with
  | none | some .none | some .undefined | some .absent => .ok none
  | some v => some <$> read v

/-- Checks that all arguments with names are known. -/
def onlyNamed (names : List String) (named : List (Value × Value)) : Except EvalFault Unit :=
  let unknown := (Value.sortedEntries named).find? fun (key, _) =>
    !(key.string?.any names.contains)
  match unknown with
  | some (key, _) => .error (.unknownArgument key.plainText)
  | none => .ok ()

end PassForge.Template
