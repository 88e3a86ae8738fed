import PassForge.Template.Filter.Sequence
import PassForge.Template.Operation

/-!
# Tests

A test says something about a value, as in `name is defined`.  It can have arguments, as in
`count is divisibleby 3`.
-/

namespace PassForge.Template

/-- What says something about a value, given arguments. -/
abbrev Test := Sight → Value → List Value → Except EvalFault Bool

namespace Test

/-- A test without arguments. -/
def plain (holds : Value → Bool) : Test := fun _ v args => do
  atMost 0 args
  return holds v

/-- A test of one value against another, as they are now. -/
def against (holds : Value → Value → Bool) : Test := fun s v args => do
  let w ← required args 0 pure
  atMost 1 args
  return holds (s.view v) (s.view w)

/-- A test of the order of two values. -/
def ordered (holds : Ordering → Bool) : Test := against fun v w => holds (v.order w)

/-- A test of the text of a value against another text. -/
def onTexts (holds : List Char → List Char → Bool) : Test := fun s v args => do
  let w ← required args 0 pure
  atMost 1 args
  return holds (s.plainText v).toList (s.plainText w).toList

/-- A test of all letters of a string. -/
def onLetters (holds : Char → Bool) : Test := fun _ v args => do
  let text ← asString v
  atMost 0 args
  return text.toList.all holds

/-- Whether a value is a whole number. -/
def isWhole (v : Value) : Bool := v matches .number _ | .wide _

/-- Whether a number is a multiple of another one.  Nothing is a multiple of zero. -/
def isMultiple (v w : Value) : Bool :=
  if v matches .fraction _ || w matches .fraction _ then
    match v.float?, w.float? with
    | some x, some y => Value.floatRest x y == 0
    | _, _ => false
  else match v.int?, w.int? with
    | some a, some b => b != 0 && a % b == 0
    | _, _ => false

/-- Whether two values are one.  Lists and maps are one with nothing else. -/
def isOne (v w : Value) : Bool :=
  match v, w with
  | .object i, .object j => i == j
  | .pass, .pass => true
  | .function f, .function g => f == g
  | v, w =>
    let simple (v : Value) : Bool :=
      v.isUndefined || v matches .none | .bool _ | .number _ | .wide _ | .fraction _ | .string _ |
        .marked _
    simple v && simple w && v.kind == w.kind && isWhole v == isWhole w && v.same w

/-- Whether a value is one with another. -/
def one : Test := fun _ v args => do
  let w ← required args 0 pure
  atMost 1 args
  return isOne v w

/-- Whether a value stands in another. -/
def within : Test := fun s v args => do
  let w ← required args 0 pure
  atMost 1 args
  if w matches .undefined then .error .undefinedValue
  return ((s.view w).contains (s.view v)).toOption.getD false

/-- Whether a value has items, or is none or undefined. -/
def isIterable (v : Value) : Bool :=
  v.isUndefined || v matches .object _ || v.items.toOption.isSome

/-- Whether a string is one of some names. -/
def isNamed (names : List String) : Test := fun _ v args => do
  let name ← asString v
  atMost 0 args
  return names.contains name

/-- The filters that look at the items of a value with other filters and with tests. -/
def choosers : List String := ["map", "select", "reject", "selectattr", "rejectattr"]

/-- The names of all filters. -/
def filterNames : List String :=
  (Filter.forTexts ++ Filter.forNumbers ++ Filter.forSequences).map (·.1) ++ choosers

/-- The tests that do not need to know the others, by name. -/
def simple : List (String × Test) :=
  [("undefined", plain (·.isUndefined)),
    ("defined", plain (!·.isUndefined)),
    ("none", plain (· matches .none)),
    ("safe", plain (· matches .marked _)),
    ("escaped", plain (· matches .marked _)),
    ("boolean", plain (· matches .bool _)),
    ("true", plain (· matches .bool true)),
    ("false", plain (· matches .bool false)),
    ("odd", plain (·.int?.any (· % 2 != 0))),
    ("even", plain (·.int?.any (· % 2 == 0))),
    ("number", plain (·.kind == "number")),
    ("integer", plain isWhole),
    ("int", plain isWhole),
    ("float", plain (· matches .fraction _)),
    ("string", plain (·.string?.isSome)),
    ("sequence", plain (·.kind == "sequence")),
    ("iterable", plain isIterable),
    ("mapping", plain (·.kind == "map")),
    ("divisibleby", against isMultiple),
    ("startingwith", onTexts fun text start => start.isPrefixOf text),
    ("endingwith", onTexts fun text ending => ending.isSuffixOf text),
    ("lower", onLetters Text.isLowerCase),
    ("upper", onLetters Text.isUpperCase),
    ("sameas", one),
    ("eq", against Value.same),
    ("equalto", against Value.same),
    ("==", against Value.same),
    ("ne", against fun v w => !v.same w),
    ("!=", against fun v w => !v.same w),
    ("lt", ordered (· == .lt)),
    ("lessthan", ordered (· == .lt)),
    ("<", ordered (· == .lt)),
    ("le", ordered (· != .gt)),
    ("<=", ordered (· != .gt)),
    ("gt", ordered (· == .gt)),
    ("greaterthan", ordered (· == .gt)),
    (">", ordered (· == .gt)),
    ("ge", ordered (· != .lt)),
    (">=", ordered (· != .lt)),
    ("in", within),
    ("filter", isNamed filterNames)]

/-- All tests, by name. -/
def all : List (String × Test) :=
  ("test", isNamed ("test" :: simple.map (·.1))) :: simple

end Test

/-- Whether a value passes a test. -/
def applyTest (s : Sight) (name : String) (v : Value) (args : Arguments) :
    Except EvalFault Bool :=
  match Test.all.lookup name with
  | some test => test s v args.all
  | none => .error (.unknownTest name)

end PassForge.Template
