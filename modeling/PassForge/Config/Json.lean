import PassForge.Config.Decimal
import PassForge.Text.Escape

/-!
# JSON

`Json.parse?` reads a JSON text.  The grammar is strict: no blanks but the four of JSON, no number
with a leading zero, no comma before a closing bracket, no raw control character in a string, and
nothing after the value.

Members of an object stay in order, and a repeated key is kept.  A string whose escapes leave half
of a surrogate pair is no text; it may stand where it is not looked at, also as a key.  Likewise a
number other than a natural one of 64 bits is only said to be finite or too large for a double.
-/

namespace PassForge

/-- A JSON value. -/
inductive Json where
  | null
  | bool (value : Bool)
  /-- A number of 64 bits written with digits only. -/
  | natural (value : Nat)
  /-- Any other number. -/
  | number (finite : Bool)
  /-- A string, unless it is no text. -/
  | string (value : Option String)
  | array (items : List Json)
  | object (members : List (Option String × Json))
deriving Inhabited, Repr

namespace Json

/-! ### Tokens -/

/-- A token of a JSON text. -/
inductive Token where
  | braceOpen | braceClose | bracketOpen | bracketClose | comma | colon
  /-- A value without parts. -/
  | scalar (value : Json)
deriving Repr

/-- The quote of strings. -/
def quote : Char := '"'

/-- Blanks between tokens. -/
def isBlank (c : Char) : Bool := c == ' ' || c == '\n' || c == '\t' || c == '\r'

/-- The parts of a number. -/
structure NumberText where
  negative : Bool
  whole : List Char
  fraction : List Char
  /-- The exponent; `true` stands for a minus sign. -/
  exponent : Option (Bool × List Char)

/-- The value of a run of decimal digits. -/
def digitsValue (digits : List Char) : Nat :=
  digits.foldl (fun n d => n * 10 + (d.toNat - 48)) 0

namespace NumberText

/-- The power of ten that the exponent asks for. -/
def power (t : NumberText) : Int :=
  match t.exponent with
  | none => 0
  | some (negative, digits) =>
    if negative then -(digitsValue digits : Int) else (digitsValue digits : Int)

/-- The size of the number. -/
def decimal (t : NumberText) : Decimal := .ofDigits t.whole t.fraction t.power

/-- The value of a number. -/
def value (t : NumberText) : Json :=
  let digitsOnly := !t.negative && t.fraction.isEmpty && t.exponent.isNone
  if digitsOnly && digitsValue t.whole < Decimal.significandLimit then
    natural (digitsValue t.whole)
  else number t.decimal.finite

end NumberText

/-- Digits, of which there must be one, and what follows. -/
def digits? (cs : List Char) : Option (List Char × List Char) :=
  let digits := cs.takeWhile Char.isDigit
  if digits.isEmpty then none else some (digits, cs.dropWhile Char.isDigit)

/-- The part of a number before the point, and what follows. -/
def whole? : List Char → Option (List Char × List Char)
  | '0' :: rest => some (['0'], rest)
  | cs => digits? cs

/-- The part of a number after the point, and what follows. -/
def fraction? : List Char → Option (List Char × List Char)
  | '.' :: rest => digits? rest
  | cs => some ([], cs)

/-- The exponent of a number without its letter, and what follows. -/
def signed? : List Char → Option ((Bool × List Char) × List Char)
  | '-' :: rest => (digits? rest).map fun (digits, rest) => ((true, digits), rest)
  | '+' :: rest => (digits? rest).map fun (digits, rest) => ((false, digits), rest)
  | cs => (digits? cs).map fun (digits, rest) => ((false, digits), rest)

/-- The exponent of a number, and what follows. -/
def exponent? : List Char → Option (Option (Bool × List Char) × List Char)
  | 'e' :: rest => (signed? rest).map fun (e, rest) => (some e, rest)
  | 'E' :: rest => (signed? rest).map fun (e, rest) => (some e, rest)
  | cs => some (none, cs)

/-- The number at the start of a text, and what follows. -/
def number? (cs : List Char) : Option (NumberText × List Char) := do
  let negative := cs.head? == some '-'
  let (whole, cs) ← whole? (if negative then cs.tail else cs)
  let (fraction, cs) ← fraction? cs
  let (exponent, cs) ← exponent? cs
  return (⟨negative, whole, fraction, exponent⟩, cs)

/-- The string whose characters between the quotes are given. -/
def string? (body : List Char) : Option Json :=
  if body.all (fun c => ' ' ≤ c) && Text.wellEscaped [quote] body then
    some (string ((Text.unescape? [quote] body).map String.ofList))
  else none

/-- The values that are written as words. -/
def words : List (List Char × Json) :=
  [("null".toList, null), ("true".toList, bool true), ("false".toList, bool false)]

/-- The token that starts with the character `c`, and the number of characters it takes beyond
that. -/
def scanToken (c : Char) (cs : List Char) : Option (Token × Nat) :=
  match c with
  | '\x7b' => some (.braceOpen, 0)
  | '\x7d' => some (.braceClose, 0)
  | '[' => some (.bracketOpen, 0)
  | ']' => some (.bracketClose, 0)
  | ',' => some (.comma, 0)
  | ':' => some (.colon, 0)
  | '"' => do
    let n ← Text.literalLength? quote cs
    let value ← string? (cs.take n)
    return (.scalar value, n + 1)
  | _ =>
    match words.find? fun w => w.1.isPrefixOf (c :: cs) with
    | some (word, value) => some (.scalar value, word.length - 1)
    | none => (number? (c :: cs)).map fun (t, rest) => (.scalar t.value, cs.length - rest.length)

/-- The tokens of a text. -/
def tokens? : List Char → Option (List Token)
  | [] => some []
  | c :: cs =>
    if isBlank c then tokens? cs
    else match scanToken c cs with
      | none => none
      | some (t, more) => (tokens? (cs.drop more)).map (t :: ·)
termination_by cs => cs.length
decreasing_by
  · exact Nat.lt_succ_self _
  · exact Nat.lt_succ_of_le (List.drop_sublist ..).length_le

/-! ### Values -/

/-- A result, and fewer tokens left than in `ts`. -/
structure Reading (α : Type) (ts : List Token) where
  value : α
  rest : List Token
  shorter : rest.length < ts.length

mutual

/-- Reads a value. -/
def readValue (ts : List Token) : Option (Reading Json ts) :=
  match ts with
  | .scalar v :: rest => some ⟨v, rest, Nat.lt_succ_self _⟩
  | .bracketOpen :: .bracketClose :: rest =>
    some ⟨array [], rest, Nat.lt_succ_of_lt (Nat.lt_succ_self _)⟩
  | .bracketOpen :: rest => do
    let ⟨items, rest', h⟩ ← readItems rest
    return ⟨array items, rest', Nat.lt_succ_of_lt h⟩
  | .braceOpen :: .braceClose :: rest =>
    some ⟨object [], rest, Nat.lt_succ_of_lt (Nat.lt_succ_self _)⟩
  | .braceOpen :: rest => do
    let ⟨members, rest', h⟩ ← readMembers rest
    return ⟨object members, rest', Nat.lt_succ_of_lt h⟩
  | _ => none
termination_by (ts.length, 0)

/-- Reads the items of an array up to its end; there is at least one. -/
def readItems (ts : List Token) : Option (Reading (List Json) ts) :=
  match readValue ts with
  | none => none
  | some ⟨v, .bracketClose :: rest, h⟩ => some ⟨[v], rest, Nat.lt_of_succ_lt h⟩
  | some ⟨v, .comma :: rest, h⟩ =>
    have hrest : rest.length < ts.length := Nat.lt_of_succ_lt h
    (readItems rest).map fun r => ⟨v :: r.value, r.rest, Nat.lt_trans r.shorter hrest⟩
  | some _ => none
termination_by (ts.length, 1)

/-- Reads the members of an object up to its end; there is at least one. -/
def readMembers (ts : List Token) : Option (Reading (List (Option String × Json)) ts) :=
  match ts with
  | .scalar (.string key) :: .colon :: rest =>
    match readValue rest with
    | none => none
    | some ⟨v, .braceClose :: rest', h⟩ =>
      some ⟨[(key, v)], rest', Nat.lt_succ_of_lt (Nat.lt_succ_of_lt (Nat.lt_of_succ_lt h))⟩
    | some ⟨v, .comma :: rest', h⟩ =>
      have hrest : rest'.length < rest.length + 2 :=
        Nat.lt_succ_of_lt (Nat.lt_succ_of_lt (Nat.lt_of_succ_lt h))
      (readMembers rest').map fun r => ⟨(key, v) :: r.value, r.rest, Nat.lt_trans r.shorter hrest⟩
    | some _ => none
  | _ => none
termination_by (ts.length, 1)

end

/-- The value that a text stands for. -/
def parse? (text : String) : Option Json := do
  let ts ← tokens? text.toList
  let r ← readValue ts
  if r.rest.isEmpty then return r.value else none

/-! ### Plain values -/

mutual

/-- The depth of nested arrays and objects. -/
def depth : Json → Nat
  | array items => itemsDepth items + 1
  | object members => membersDepth members + 1
  | _ => 0

/-- The depth of the items of an array. -/
def itemsDepth : List Json → Nat
  | [] => 0
  | v :: rest => max (depth v) (itemsDepth rest)

/-- The depth of the members of an object. -/
def membersDepth : List (Option String × Json) → Nat
  | [] => 0
  | (_, v) :: rest => max (depth v) (membersDepth rest)

end

mutual

/-- Whether all strings of a value are texts and all its numbers fit into a double. -/
def isPlain : Json → Bool
  | null => true
  | bool _ => true
  | natural _ => true
  | number finite => finite
  | string s => s.isSome
  | array items => itemsPlain items
  | object members => membersPlain members

/-- Whether all items of an array are plain. -/
def itemsPlain : List Json → Bool
  | [] => true
  | v :: rest => isPlain v && itemsPlain rest

/-- Whether all members of an object are plain. -/
def membersPlain : List (Option String × Json) → Bool
  | [] => true
  | (key, v) :: rest => key.isSome && isPlain v && membersPlain rest

end

end Json

end PassForge
