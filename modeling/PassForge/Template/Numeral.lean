/-!
# Numerals of templates

A numeral is a run of digits; after `0b`, `0o` or `0x` it is read in base two, eight or sixteen.
Underscores may divide digits but not end the numeral.  A whole number has to fit into 128 bits.

A decimal numeral goes on over one point, unless a name follows it: then the point asks for a part
of the number.  It also goes on over a power of ten, `e` with an optional sign, which may follow the
point directly.
-/

namespace PassForge.Template

/-- What a numeral stands for. -/
inductive Numeral where
  | whole (value : Nat)
  /-- The number `significand * 10 ^ exponent`. -/
  | fraction (significand : Nat) (exponent : Int)
deriving DecidableEq, Repr

/-- Why a numeral stands for nothing. -/
inductive NumeralFault where
  /-- It ends in an underscore. -/
  | underscore
  /-- It has no digits, a digit that is none in its base, or is too large. -/
  | whole
  /-- Its power of ten has no digits. -/
  | fraction
deriving DecidableEq, Repr

/-- Whole numbers are below this one. -/
def wholeLimit : Nat := 340282366920938463463374607431768211456

/-- The base that the start of a numeral asks for. -/
def radix? : List Char → Option Nat
  | '0' :: c :: _ =>
    if c = 'b' ∨ c = 'B' then some 2
    else if c = 'o' ∨ c = 'O' then some 8
    else if c = 'x' ∨ c = 'X' then some 16
    else none
  | _ => none

/-- The value of a digit in base sixteen or less. -/
def digitValue? (base : Nat) (c : Char) : Option Nat :=
  let value :=
    if c.isDigit then c.toNat - 48
    else if 'a' ≤ c ∧ c ≤ 'f' then c.toNat - 87
    else if 'A' ≤ c ∧ c ≤ 'F' then c.toNat - 55
    else 16
  if value < base then some value else none

/-- The number that digits stand for in a base, if there is a digit and it is not too large. -/
def wholeValue? (base : Nat) (digits : List Char) : Option Nat := do
  if digits.isEmpty then none
  let value ← digits.foldlM (fun n d => (digitValue? base d).map (n * base + ·)) 0
  if value < wholeLimit then some value else none

/-- Whether `c` can go on with a numeral. -/
def isNumeralChar (base : Nat) (c : Char) : Bool :=
  c.isDigit || c == '_' || (base == 16 && (digitValue? 16 c).isSome)

/-- The number that decimal digits stand for, other characters left out. -/
def digitsValue (cs : List Char) : Nat :=
  (cs.filter Char.isDigit).foldl (fun n d => n * 10 + (d.toNat - 48)) 0

/-- Whether a text starts with a name that is no power of ten. -/
def startsName (cs : List Char) : Bool :=
  cs.head?.any fun c => (c.isAlpha && c.toLower != 'e') || c == '_'

/-! ### Decimal numerals -/

/-- The point and the digits behind it, if a numeral goes on with them. -/
def pointRun (cs : List Char) : List Char :=
  if cs.head? = some '.' ∧ ¬ startsName cs.tail then
    '.' :: cs.tail.takeWhile (isNumeralChar 10)
  else []

/-- The mark of a power of ten, its sign and its digits, if a numeral goes on with them. -/
def powerRun (cs : List Char) : List Char :=
  match cs with
  | mark :: rest =>
    if mark = 'e' ∨ mark = 'E' then
      let marks := rest.takeWhile (· == '_')
      let rest := rest.drop marks.length
      let sign := rest.takeWhile fun c => c == '+' || c == '-'
      let sign := sign.take 1
      mark :: marks ++ sign ++ (rest.drop sign.length).takeWhile (isNumeralChar 10)
    else []
  | [] => []

/-- Powers of ten beyond this one are as good as this one. -/
def maxExponent : Nat := 100000

/-- The power of ten that a run stands for, if it has digits or there is none. -/
def powerValue? (run : List Char) : Option Int :=
  if run.isEmpty then some 0
  else if run.any Char.isDigit then
    let size : Nat := min (digitsValue run) maxExponent
    some (if '-' ∈ run then -(size : Int) else size)
  else none

/-- The numeral at the start of a text that starts with a digit, and its length. -/
def scanNumeral (cs : List Char) : Except NumeralFault (Numeral × Nat) :=
  let finished (run : List Char) (value : Except NumeralFault Numeral) (length : Nat) :
      Except NumeralFault (Numeral × Nat) :=
    if run.getLast? = some '_' then .error .underscore else value.map (·, length)
  let wholeNumeral (base : Nat) (run : List Char) : Except NumeralFault Numeral :=
    match wholeValue? base (run.filter (· != '_')) with
    | some value => .ok (.whole value)
    | none => .error .whole
  match radix? cs with
  | some base =>
    let run := (cs.drop 2).takeWhile (isNumeralChar base)
    finished run (wholeNumeral base run) (run.length + 2)
  | none =>
    let whole := cs.takeWhile (isNumeralChar 10)
    let point := pointRun (cs.drop whole.length)
    let power := powerRun (cs.drop (whole.length + point.length))
    let run := whole ++ point ++ power
    if point.isEmpty && power.isEmpty then finished run (wholeNumeral 10 run) run.length
    else
      let value : Except NumeralFault Numeral :=
        match powerValue? power with
        | some exponent =>
          .ok (.fraction (digitsValue (whole ++ point))
            (exponent - (point.filter Char.isDigit).length))
        | none => .error .fraction
      finished run value run.length

end PassForge.Template
