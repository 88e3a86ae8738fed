import PassForge.Template.Fault
import PassForge.Text.Quoted
import PassForge.Text.Shortest

/-!
# Template values

What expressions of a template stand for.  A name that nothing defines stands for
`Value.undefined`: it can be passed on, but printing it, testing it, comparing it or looking into it
is a fault.  A choice without an alternative gives `Value.absent`, which prints as nothing, counts
as false, has no items and can be compared.

Values do not change, but for objects: these are known by a number only, and what stands behind it
can be another value later.
-/

namespace PassForge.Template

/-- How the items of a list are kept. -/
inductive ListForm where
  /-- One after the other. -/
  | stored
  /-- To be counted out or gathered from other lists, which are joined `joins` deep. -/
  | gathered (joins : Nat)
  /-- One by one, so that their number is not known beforehand. -/
  | streamed
  /-- What a group has in common and its members. -/
  | group
deriving DecidableEq, Repr

namespace ListForm

/-- The depth to which lists are joined. -/
def joins : ListForm → Nat
  | gathered n => n
  | _ => 0

/-- The deepest joining.  Beyond it the items are stored. -/
def maxJoins : Nat := 32

/-- The form of two lists joined. -/
def join (a b : ListForm) : ListForm :=
  let depth := max a.joins b.joins + 1
  if maxJoins < depth then stored else gathered depth

/-- Whether the items can only be gone through. -/
def isIterator : ListForm → Bool
  | gathered _ | streamed => true
  | stored | group => false

end ListForm

/-- A function that is there without being set. -/
inductive Builtin where
  /-- Counts. -/
  | range
  /-- Makes a map of named values. -/
  | dict
  /-- Shows values. -/
  | debug
  /-- Makes a value whose parts can be set. -/
  | space
deriving DecidableEq, Repr

namespace Builtin

/-- The name of a function. -/
def name : Builtin → String
  | range => "range"
  | dict => "dict"
  | debug => "debug"
  | space => "namespace"

/-- The function with a name. -/
def ofName? (name : String) : Option Builtin := [range, dict, debug, space].find? (·.name == name)

/-- A function as it is printed. -/
def text (f : Builtin) : String := "minijinja::functions::builtins::" ++ f.name

end Builtin

/-- A value. -/
inductive Value where
  | undefined
  /-- What a choice without an alternative gives. -/
  | absent
  | none
  | bool (value : Bool)
  | number (value : Int)
  /-- A number written down with more than 64 bits, as an unsigned word of 128 bits. -/
  | wide (value : Nat)
  /-- A number with a point. -/
  | fraction (value : Float)
  | string (value : String)
  /-- A string that is printed as it is where others are escaped. -/
  | marked (value : String)
  | list (form : ListForm) (items : List Value)
  /-- Values by key, in the order of the keys. -/
  | map (entries : List (Value × Value))
  /-- Values by name with a text of its own. -/
  | record (text : String) (parts : List (Value × Value))
  | function (f : Builtin)
  /-- The pass. -/
  | pass
  /-- An object, by its number. -/
  | object (id : Nat)
deriving Repr

namespace Value

/-- The kind of a value, as faults name it. -/
def kind : Value → String
  | undefined | absent => "undefined"
  | none => "none"
  | bool _ => "bool"
  | number _ | wide _ | fraction _ => "number"
  | string _ | marked _ => "string"
  | list form _ => if form.isIterator then "iterator" else "sequence"
  | map _ | record .. | pass | object _ => "map"
  | function _ => "plain object"

/-- Whether the value is undefined. -/
def isUndefined : Value → Bool
  | undefined | absent => true
  | _ => false

/-- The text of a string. -/
def string? : Value → Option String
  | string s | marked s => some s
  | _ => Option.none

/-- Whether the value counts as true. -/
def truth : Value → Except EvalFault Bool
  | undefined => .error .undefinedValue
  | absent => .ok false
  | none => .ok false
  | bool b => .ok b
  | number n => .ok (n != 0)
  | wide n => .ok (n != 0)
  | fraction x => .ok (x != 0)
  | string s | marked s => .ok (s != "")
  | list .streamed _ => .ok true
  | list _ items => .ok !items.isEmpty
  | map entries => .ok !entries.isEmpty
  | record _ parts => .ok !parts.isEmpty
  | function _ => .ok true
  | pass => .ok false
  | object _ => .ok true

/-- Whether the value counts as true; what is undefined does not. -/
def isTrue (v : Value) : Bool :=
  match v.truth with
  | .ok b => b
  | .error _ => false

/-! ### Text -/

mutual

/-- The text of a value inside a list. -/
def quoted : Value → String
  | undefined | absent => "undefined"
  | none => "None"
  | bool true => "True"
  | bool false => "False"
  | number n => toString n
  | wide n => toString n
  | fraction x => Text.floatListing x
  | string s | marked s => Text.quote s
  | list _ items => "[" ++ ", ".intercalate (quotedItems items) ++ "]"
  | map entries => "\x7b" ++ ", ".intercalate (quotedEntries entries) ++ "\x7d"
  | record text _ => text
  | function f => f.text
  | pass => "\x7b\x7d"
  | object _ => "\x7b\x7d"

/-- The texts of values inside a list. -/
def quotedItems : List Value → List String
  | [] => []
  | v :: rest => quoted v :: quotedItems rest

/-- The texts of the entries of a map. -/
def quotedEntries : List (Value × Value) → List String
  | [] => []
  | (k, v) :: rest => (quoted k ++ ": " ++ quoted v) :: quotedEntries rest

end

/-- The text of a value, which is that of a string without its quotes. -/
def plainText : Value → String
  | undefined | absent => ""
  | string s | marked s => s
  | fraction x => Text.floatText x
  | v => v.quoted

/-- The text of a value, if it has one. -/
def text : Value → Except EvalFault String
  | undefined => .error .undefinedValue
  | v => .ok v.plainText

/-- The text between brackets of which every piece stands on a line of its own, indented by
`indent`. -/
def onLines (opening closing indent : String) (pieces : List String) : String :=
  if pieces.isEmpty then opening ++ closing
  else
    let lines := pieces.map fun piece => indent ++ "    " ++ piece ++ ",\n"
    opening ++ "\n" ++ "".intercalate lines ++ indent ++ closing

mutual

/-- The text of a value with every item on a line of its own, indented by `indent`. -/
def listing (indent : String) : Value → String
  | list _ items => onLines "[" "]" indent (listingItems (indent ++ "    ") items)
  | map entries => onLines "\x7b" "\x7d" indent (listingEntries (indent ++ "    ") entries)
  | v => v.quoted

/-- The texts of values on lines of their own. -/
def listingItems (indent : String) : List Value → List String
  | [] => []
  | v :: rest => listing indent v :: listingItems indent rest

/-- The texts of the entries of a map on lines of their own. -/
def listingEntries (indent : String) : List (Value × Value) → List String
  | [] => []
  | (k, v) :: rest => (listing indent k ++ ": " ++ listing indent v) :: listingEntries indent rest

end

/-! ### Numbers -/

/-- The integer that a number with a point is, if it takes at most 64 bits. -/
def wholeOf? (x : Float) : Option Int :=
  let n := x.toInt64.toInt
  if Float.ofInt n == x then some n else Option.none

/-- The integer that a value counts as. -/
def int? : Value → Option Int
  | bool b => some (if b then 1 else 0)
  | number n => some n
  | wide n => some n
  | fraction x => wholeOf? x
  | _ => Option.none

/-- The number with a point that a value counts as. -/
def float? : Value → Option Float
  | fraction x => some x
  | v => v.int?.map Float.ofInt

/-- Numbers from this one on take more than 64 bits. -/
def wordLimit : Nat := 18446744073709551616

/-- The value of a numeral. -/
def ofNumeral (n : Nat) : Value := if n < wordLimit then number n else wide n

/-- The value of a numeral with a point, `significand * 10 ^ exponent`. -/
def ofFraction (significand : Nat) (exponent : Int) : Value :=
  let digits : Int := (Nat.toDigits 10 significand).length
  if significand = 0 || digits + exponent < -400 then fraction 0
  else if 400 < digits + exponent then fraction (1.0 / 0.0)
  else fraction (Float.ofScientific significand (exponent < 0) exponent.natAbs)

/-! ### Items -/

/-- The characters of a string. -/
def characters (s : String) : List Value := s.toList.map fun c => string (String.singleton c)

/-- The items of a value that is made of others. -/
def objectItems? : Value → Option (List Value)
  | list _ items => some items
  | map entries => some (entries.map (·.1))
  | record _ parts => some (parts.map (·.1))
  | pass => some []
  | _ => Option.none

/-- The items a loop goes through. -/
def items (v : Value) : Except EvalFault (List Value) :=
  match v with
  | undefined => .error .undefinedValue
  | absent | none => .ok []
  | string s | marked s => .ok (characters s)
  | v =>
    match v.objectItems? with
    | some items => .ok items
    | Option.none => .error (.notIterable v.kind)

/-- Whether the number of items is known before they are gone through. -/
def counted : Value → Bool
  | string _ | marked _ | list .streamed _ => false
  | _ => true

/-- The entries of a map, or of a value that is like one. -/
def entries? : Value → Option (List (Value × Value))
  | map entries => some entries
  | record _ parts => some parts
  | pass => some []
  | _ => Option.none

/-- The fault of calling a value. -/
def callFault : Value → EvalFault
  | list .. | map _ | record .. | pass | object _ => .objectNotCallable
  | v => .notCallable v.kind

/-! ### Objects inside values -/

mutual

/-- Whether an object stands in a value. -/
def hasObject : Value → Bool
  | list _ items => hasObjectIn items
  | map entries => hasObjectInEntries entries
  | record _ parts => hasObjectInEntries parts
  | object _ => true
  | _ => false

/-- Whether an object stands in one of some values. -/
def hasObjectIn : List Value → Bool
  | [] => false
  | v :: rest => hasObject v || hasObjectIn rest

/-- Whether an object stands in one of some entries. -/
def hasObjectInEntries : List (Value × Value) → Bool
  | [] => false
  | (k, v) :: rest => hasObject k || hasObject v || hasObjectInEntries rest

end

mutual

/-- A value with all its objects replaced. -/
def replaceObjects (f : Nat → Value) : Value → Value
  | list form items => list form (replaceObjectsIn f items)
  | map entries => map (replaceObjectsInEntries f entries)
  | record text parts => record text (replaceObjectsInEntries f parts)
  | object id => f id
  | v => v

/-- Values with all their objects replaced. -/
def replaceObjectsIn (f : Nat → Value) : List Value → List Value
  | [] => []
  | v :: rest => replaceObjects f v :: replaceObjectsIn f rest

/-- Entries with all their objects replaced. -/
def replaceObjectsInEntries (f : Nat → Value) : List (Value × Value) → List (Value × Value)
  | [] => []
  | (k, v) :: rest =>
    (replaceObjects f k, replaceObjects f v) :: replaceObjectsInEntries f rest

end

end Value

end PassForge.Template
