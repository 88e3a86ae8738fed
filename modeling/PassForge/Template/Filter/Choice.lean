import PassForge.Template.Test

/-!
# Filters that apply others

`map` puts every item of a value through another filter, or takes a part of every item.  `select`
and its relatives keep the items that pass a test, or that count as true.
-/

namespace PassForge.Template

namespace Filter

/-- The items of a value that pass a test, or those that do not if `passing` is false.  The test is
of a part of an item if `path` names one. -/
def chosen (s : Sight) (passing : Bool) (v : Value) (path test : Option String)
    (args : List Value) : Except EvalFault Value := do
  let test ← match test with
    | some name =>
      match Test.all.lookup name with
      | some test => pure (some test)
      | none => .error .noTest
    | none => pure none
  let items ← s.items v
  let kept ← items.filterM fun item => do
    let part ← match path with
      | some path => s.path path item
      | none => pure item
    let passes ← match test with
      | some test => test s part args
      | none => pure (s.isTrue part)
    return passes == passing
  return .list .stored kept

/-- The items of a value that pass a test, or do not. -/
def select (passing : Bool) : Filter := fun s v args => do
  let test ← optionalText s args 0
  chosen s passing v none test (args.all.drop 1)

/-- The items of a value of which a part passes a test, or does not. -/
def selectattr (passing : Bool) : Filter := fun s v args => do
  let path ← requiredText s args 0
  let test ← optionalText s args 1
  chosen s passing v path test (args.all.drop 2)

/-- A part of an item, or another value if it has no such part. -/
def partOr (s : Sight) (key other item : Value) : Except EvalFault Value :=
  let part := match key.string? with
    | some path => s.path path item
    | none => s.part key item
  match part with
  | .ok v => .ok (if v.isUndefined then other else v)
  | .error fault => if other.isUndefined then .error fault else .ok other

/-- A part of every item of a value. -/
def mapPart (s : Sight) (v key : Value) (args : Arguments) : Except EvalFault Value := do
  atMost 0 args.values
  let other := (Value.underKey? args.named (.string "default")).getD .undefined
  let parts ← (← s.items v).mapM (partOr s key other)
  onlyNamed ["attribute", "default"] args.named
  return .list .stored parts

/-- The filters that do not need to know the others, by name. -/
def simple : List (String × Filter) :=
  forTexts ++ forNumbers ++ forSequences ++
    [("select", select true),
      ("reject", select false),
      ("selectattr", selectattr true),
      ("rejectattr", selectattr false)]

/-- The result of a filter.  The arguments of `map` are the name of a filter and its arguments. -/
def apply (s : Sight) (name : String) (v : Value) (named : List (Value × Value))
    (values : List Value) : Except EvalFault Value :=
  match simple.lookup name with
  | some filter => filter s v ⟨values, named⟩
  | none =>
    if name != "map" then .error (.unknownFilter name)
    else do
      match ← optionalNamed named "attribute" pure, values with
      | some key, values => mapPart s v key ⟨values, named⟩
      | none, [] => .error (.refused "filter name is required")
      | none, f :: rest =>
        match f.string? with
        | none => .error (.refused "filter name must be a string")
        | some f =>
          if !Test.filterNames.contains f then .error .noFilter
          else return .list .stored (← (← s.items v).mapM fun item => apply s f item [] rest)

end Filter

/-- The result of a filter. -/
def applyFilter (s : Sight) (name : String) (v : Value) (args : Arguments) :
    Except EvalFault Value :=
  Filter.apply s name v args.named args.values

end PassForge.Template
