/-!
# Backslash escapes

String literals of configuration files and templates write some characters with a backslash.  An
escape names a character, or gives a UTF-16 unit in four hexadecimal digits; a unit that is the
first half of a pair must be followed by an escape with the second half.
-/

namespace PassForge.Text

/-- The value of a hexadecimal digit. -/
def hexValue? (c : Char) : Option Nat :=
  if '0' ≤ c ∧ c ≤ '9' then some (c.toNat - 48)
  else if 'a' ≤ c ∧ c ≤ 'f' then some (c.toNat - 87)
  else if 'A' ≤ c ∧ c ≤ 'F' then some (c.toNat - 55)
  else none

/-- The value of four hexadecimal digits. -/
def hexUnit? (a b c d : Char) : Option Nat := do
  let a ← hexValue? a
  let b ← hexValue? b
  let c ← hexValue? c
  let d ← hexValue? d
  return ((a * 16 + b) * 16 + c) * 16 + d

/-- The first half of a surrogate pair. -/
def isHighSurrogate (unit : Nat) : Bool := decide (0xD800 ≤ unit) && decide (unit < 0xDC00)

/-- The second half of a surrogate pair. -/
def isLowSurrogate (unit : Nat) : Bool := decide (0xDC00 ≤ unit) && decide (unit < 0xE000)

/-- The character of a surrogate pair. -/
def ofSurrogates (high low : Nat) : Char :=
  Char.ofNat (0x10000 + (high - 0xD800) * 0x400 + (low - 0xDC00))

/-- The character that a one-letter escape names.  `quotes` are the quotes that may be escaped. -/
def namedEscape? (quotes : List Char) (c : Char) : Option Char :=
  if c = '\\' ∨ c = '/' ∨ c ∈ quotes then some c
  else if c = 'b' then some '\x08'
  else if c = 'f' then some '\x0c'
  else if c = 'n' then some '\n'
  else if c = 'r' then some '\r'
  else if c = 't' then some '\t'
  else none

/-- The text with its escapes resolved.  `high` is a first half that waits for the second. -/
def unescapeFrom (quotes : List Char) (high : Option Nat) : List Char → Option (List Char)
  | [] => if high.isSome then none else some []
  | ['\\'] => none
  | '\\' :: 'u' :: a :: b :: c :: d :: rest =>
    match hexUnit? a b c d, high with
    | none, _ => none
    | some unit, some first =>
      if isLowSurrogate unit then
        (unescapeFrom quotes none rest).map (ofSurrogates first unit :: ·)
      else none
    | some unit, none =>
      if isHighSurrogate unit then unescapeFrom quotes (some unit) rest
      else if isLowSurrogate unit then none
      else (unescapeFrom quotes none rest).map (Char.ofNat unit :: ·)
  | '\\' :: c :: rest =>
    if high.isSome then none
    else match namedEscape? quotes c with
      | none => none
      | some c => (unescapeFrom quotes none rest).map (c :: ·)
  | c :: rest =>
    if high.isSome then none else (unescapeFrom quotes none rest).map (c :: ·)

/-- The text with its escapes resolved, if they are all in order. -/
def unescape? (quotes : List Char) (cs : List Char) : Option (List Char) :=
  unescapeFrom quotes none cs

/-- Whether every escape names a character or a UTF-16 unit; units need not make up pairs. -/
def wellEscaped (quotes : List Char) : List Char → Bool
  | [] => true
  | ['\\'] => false
  | '\\' :: 'u' :: a :: b :: c :: d :: rest => (hexUnit? a b c d).isSome && wellEscaped quotes rest
  | '\\' :: c :: rest => (namedEscape? quotes c).isSome && wellEscaped quotes rest
  | _ :: rest => wellEscaped quotes rest

/-- The number of characters of a string literal before its closing quote. -/
def literalLength? (quote : Char) : List Char → Option Nat
  | [] => none
  | '\\' :: _ :: cs => (literalLength? quote cs).map (· + 2)
  | c :: cs => if c = quote then some 0 else (literalLength? quote cs).map (· + 1)

end PassForge.Text
