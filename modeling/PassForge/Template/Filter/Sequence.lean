import PassForge.Template.Filter.Number
import PassForge.Template.Arithmetic

/-!
# Filters on lists and maps

Values are sorted by the order of values; texts are compared without regard to the case of English
letters unless a filter is told otherwise.
-/

namespace PassForge.Template

namespace Filter

/-! ### Items -/

/-- The items of a value, or a fault that says what cannot be done without them. -/
def itemsFor (s : Sight) (purpose : String) (v : Value) : Except EvalFault (List Value) :=
  match s.items v with
  | .ok items => .ok items
  | .error _ => .error (.refused s!"cannot {purpose}")

/-- The items of a value to be listed. -/
def listed (s : Sight) (v : Value) : Except EvalFault (List Value) :=
  itemsFor s "convert value to list" v

/-- The items of a value as a list. -/
def list : Filter := fun s v args => do
  atMost 0 args.all
  return .list .stored (← listed s v)

/-- The number of items of a value. -/
def length : Filter := fun s v args => do
  atMost 0 args.all
  match s.glance v with
  | .string text | .marked text => return .number text.length
  | v =>
    match v, v.objectItems? with
    | .list .streamed _, _ | _, none =>
      .error (.refused s!"cannot calculate length of value of type {v.kind}")
    | _, some items => return .number items.length

/-- The first item of a value. -/
def first : Filter := fun s v args => do
  atMost 0 args.all
  match s.glance v with
  | .string text | .marked text => return (Value.characters text).head?.getD .undefined
  | v =>
    match v.objectItems? with
    | some items => return items.head?.getD .undefined
    | none => .error (.refused "cannot get first item from value")

/-- The last item of a string or list. -/
def last : Filter := fun _ v args => do
  atMost 0 args.all
  match v with
  | .string text | .marked text => return (Value.characters text).getLast?.getD .undefined
  | .list _ items => return items.getLast?.getD .undefined
  | _ => .error (.refused "cannot get last item from value")

/-- The items of a value from the last to the first. -/
def reverse : Filter := fun s v args => do
  atMost 0 args.all
  match s.glance v with
  | .undefined | .absent => return .undefined
  | .none => return .none
  | .string text | .marked text => return .string (String.ofList text.toList.reverse)
  | v =>
    match v.objectItems? with
    | some items => return .list (.gathered 0) items.reverse
    | none => .error (.refused s!"cannot reverse values of type {v.kind}")

/-- The texts of the items of a value as one text, with a text between them.  As long as nothing is
written, nothing stands between items. -/
def join : Filter := fun s v args => do
  let between ← optionalText s args 0
  atMost 1 args.all
  if v.isUndefined then return .string ""
  let items ← itemsFor s s!"join value of type {v.kind}" v
  return .string <| items.foldl (fun text item =>
    (if text.isEmpty then text else text ++ between.getD "") ++ s.plainText item) ""

/-- A part of a value. -/
def attr : Filter := fun s v args => do
  let key ← required args.all 0 pure
  atMost 1 args.all
  s.part key v

/-- A value, or another one if it is undefined.  If asked to, anything that counts as false is
replaced. -/
def fallback : Filter := fun s v args => do
  let other ← optional args.all 0 pure
  let lax := (args.all[1]?).any s.isTrue
  atMost 2 args.all
  return if v.isUndefined || (lax && !s.isTrue v) then other.getD (.string "") else v

/-- Whether a value counts as true. -/
def bool : Filter := fun s v args => do
  atMost 0 args.all
  return .bool (s.isTrue v)

/-- A value with every item on a line of its own. -/
def pprint : Filter := fun s v args => do
  atMost 0 args.all
  return .string ((s.view v).listing "")

/-! ### Order -/

/-- A text in which English letters are small. -/
def smallLetters (text : String) : String := String.ofList (text.toList.map Char.toLower)

/-- What a value is sorted by. -/
def sortKey (s : Sight) (sensitive : Bool) (v : Value) : Value :=
  match v.string? with
  | some text => .string (if sensitive then text else smallLetters text)
  | none => s.view v

/-- The values in the order of their keys; those with equal keys stay as they are. -/
def sortedBy {α : Type} (key : α → Value) (vs : List α) : List α :=
  let keyed := vs.map fun v => (key v, v)
  (keyed.mergeSort fun a b => a.1.order b.1 != .gt).map (·.2)

/-- A part of a value, or another value if it has no such part. -/
def pathOr (s : Sight) (path : String) (other v : Value) : Value :=
  match s.path path v with
  | .ok part => if part.isUndefined then other else part
  | .error _ => other

/-- The items of a value in order. -/
def sort : Filter := fun s v args => do
  let items ← listed s v
  atMost 0 args.values
  let sensitive ← optionalNamed args.named "case_sensitive" asTruth
  let byPath ← optionalNamed args.named "attribute" asString
  let reversed ← optionalNamed args.named "reverse" asTruth
  onlyNamed ["case_sensitive", "attribute", "reverse"] args.named
  let key := sortKey s (sensitive.getD false)
  let sorted := match byPath with
    | some path => sortedBy (fun v => key (pathOr s path .undefined v)) items
    | none => sortedBy key items
  return .list .stored (if reversed.getD false then sorted.reverse else sorted)

/-- The entries of a map, each as a list of two. -/
def pairs (entries : List (Value × Value)) : List Value :=
  entries.map fun (k, v) => .list .stored [k, v]

/-- The entries of a value, or a fault. -/
def entriesOf (s : Sight) (v : Value) : Except EvalFault (List (Value × Value)) :=
  match (s.glance v).entries? with
  | some entries => .ok entries
  | none => .error (.refused "cannot convert value into pair list")

/-- The entries of a map. -/
def items : Filter := fun s v args => do
  atMost 0 args.all
  return .list (.gathered 0) (pairs (← entriesOf s v))

/-- The entries of a map in the order of their keys or values. -/
def dictsort : Filter := fun s v args => do
  atMost 0 args.values
  let entries ← entriesOf s v
  let column ← optionalNamed args.named "by" asString
  let sensitive ← optionalNamed args.named "case_sensitive" asTruth
  let reversed ← optionalNamed args.named "reverse" asTruth
  onlyNamed ["by", "case_sensitive", "reverse"] args.named
  let key (e : Value × Value) : Value :=
    sortKey s (sensitive.getD false) (if column = some "value" then e.2 else e.1)
  let sorted := pairs (sortedBy key entries)
  return .list .stored (if reversed.getD false then sorted.reverse else sorted)

/-- The smallest item, which is the first of those that are equal. -/
def min : Filter := fun s v args => do
  atMost 0 args.all
  let items ← listed s v
  let smaller (a b : Value) : Value := if (s.view b).order (s.view a) == .lt then b else a
  return (items.tail.foldl smaller (items.headD .undefined))

/-- The largest item, which is the last of those that are equal. -/
def max : Filter := fun s v args => do
  atMost 0 args.all
  let items ← listed s v
  let larger (a b : Value) : Value := if (s.view b).order (s.view a) == .lt then a else b
  return (items.tail.foldl larger (items.headD .undefined))

/-! ### Groups -/

/-- Values next to each other with equal keys, together. -/
def runs {α : Type} (keyed : List (Value × α)) : List (List (Value × α)) :=
  keyed.foldr (fun e done =>
    match done with
    | (f :: run) :: more =>
      if e.1.order f.1 == .eq then (e :: f :: run) :: more else [e] :: (f :: run) :: more
    | _ => [[e]]) []

/-- The values without those whose key is that of an earlier one. -/
def distinctBy {α : Type} (key : α → Value) (vs : List α) : List α :=
  let keyed := vs.zipIdx.map fun (v, i) => (key v, i, v)
  let firsts := (runs (sortedBy Prod.fst keyed)).filterMap fun run => run.head?.map (·.2)
  (firsts.mergeSort fun a b => a.1 ≤ b.1).map (·.2)

/-- The items of a value without those that are the same as an earlier one. -/
def unique : Filter := fun s v args => do
  atMost 0 args.values
  let byPath ← optionalNamed args.named "attribute" asString
  let sensitive ← optionalNamed args.named "case_sensitive" asTruth
  onlyNamed ["attribute", "case_sensitive"] args.named
  let key (v : Value) : Value :=
    let v := match byPath with
      | some path => pathOr s path .undefined v
      | none => v
    match v.string? with
    | some text =>
      .string (if sensitive.getD false then text else String.ofList (Text.lower text.toList))
    | none => s.view v
  return .list .stored (distinctBy key (← s.items v))

/-- The items of a value in groups, by a part of them. -/
def groupby : Filter := fun s v args => do
  let place ← optional args.values 0 asString
  atMost 1 args.values
  let other ← optionalNamed args.named "default" pure
  let sensitive ← optionalNamed args.named "case_sensitive" asTruth
  let path ← match place, Value.underKey? args.named (.string "attribute") with
    | some path, _ => pure path
    | none, some v => asString v
    | none, none => .error (.missingNamed "attribute")
  let items ← if v.isUndefined then pure [] else s.items v
  let known := ["default", "case_sensitive"] ++ if place.isSome then [] else ["attribute"]
  onlyNamed known args.named
  let part (v : Value) : Value := pathOr s path (other.getD .undefined) v
  let key (v : Value) : Value := sortKey s (sensitive.getD false) (part v)
  let keyed := (sortedBy key items).map fun v => (key v, v)
  return .list .stored <| (runs keyed).map fun run =>
    let members := run.map (·.2)
    .list .group [(members.getLast?.map part).getD .undefined, .list .stored members]

/-- Lists of `size` items each; the last one can have fewer. -/
def chunks (size : Nat) (vs : List Value) : List (List Value) :=
  let step (done : List (Nat × List Value)) (v : Value) : List (Nat × List Value) :=
    match done with
    | (count, chunk) :: more =>
      if count < size then (count + 1, v :: chunk) :: more else (1, [v]) :: done
    | [] => [(1, [v])]
  (vs.foldl step []).reverse.map fun (_, chunk) => chunk.reverse

/-- The items of a value in lists of a size.  The last one can be filled up. -/
def batch : Filter := fun s v args => do
  let size ← required args.all 0 asSize
  let filler ← optional args.all 1 pure
  atMost 2 args.all
  if size = 0 then .error (.refused "count cannot be 0")
  let items ← s.items v
  return .list .stored <| (chunks size items).map fun chunk =>
    match filler with
    | some v => .list .stored (chunk ++ List.replicate (size - chunk.length) v)
    | none => .list .stored chunk

/-- A number of lists of `size` items each, of which the first `longer` ones have one more. -/
def shares (size : Nat) : (count longer : Nat) → List Value → List (List Value)
  | 0, _, _ => []
  | count + 1, longer, vs =>
    let here := if 0 < longer then size + 1 else size
    vs.take here :: shares size count (longer - 1) (vs.drop here)

/-- The items of a value in a number of lists.  The first ones can have one more; the others can be
filled up. -/
def slice : Filter := fun s v args => do
  let count ← required args.all 0 asSize
  let filler ← optional args.all 1 pure
  atMost 2 args.all
  if count = 0 then .error (.refused "count cannot be 0")
  let items ← s.items v
  let longer := items.length % count
  let parts := shares (items.length / count) count longer items
  return .list .stored <| parts.zipIdx.map fun (part, i) =>
    match filler with
    | some v => .list .stored (if i < longer then part else part ++ [v])
    | none => .list .stored part

/-! ### Several values -/

/-- The sum of numbers. -/
def sum : Filter := fun s v args => do
  atMost 0 args.all
  (← s.items v).foldlM (fun total item =>
    if item.isUndefined then .error .undefinedValue
    else if item.kind != "number" then .error (.refused s!"can only sum numbers, got {item.kind}")
    else total.sum item) (.number 0)

/-- Values one behind the other: maps as one map, lists as one list. -/
def chain : Filter := fun s v args => do
  let all := v :: args.all
  if all.all (·.kind == "map") then
    return .ofEntries (all.flatMap fun v => ((s.glance v).entries?).getD [])
  else if all.all (·.kind == "sequence") then
    return .list .stored (all.flatMap fun v => v.objectItems?.getD [])
  else
    return .list .streamed (← all.mapM s.items).flatten

/-- The first items of some lists, then the second ones, as long as there are some in each. -/
def zipped : List (List Value) → List (List Value)
  | [] => []
  | [vs] => vs.map ([·])
  | vs :: more => (vs.zip (zipped more)).map fun (v, rest) => v :: rest

/-- The items of several values side by side. -/
def zip : Filter := fun s v args => do
  let all ← (v :: args.all).mapM fun v =>
    match s.items v with
    | .ok items => .ok items
    | .error _ => .error (.refused s!"zip filter argument must be iterable, got {v.kind}")
  return .list .streamed ((zipped all).map (.list .stored))

/-- The filters on lists and maps, by name. -/
def forSequences : List (String × Filter) :=
  [("list", list),
    ("length", length),
    ("count", length),
    ("first", first),
    ("last", last),
    ("reverse", reverse),
    ("join", join),
    ("attr", attr),
    ("default", fallback),
    ("d", fallback),
    ("bool", bool),
    ("pprint", pprint),
    ("sort", sort),
    ("items", items),
    ("dictsort", dictsort),
    ("min", min),
    ("max", max),
    ("unique", unique),
    ("groupby", groupby),
    ("batch", batch),
    ("slice", slice),
    ("sum", sum),
    ("chain", chain),
    ("zip", zip)]

end Filter

end PassForge.Template
