/-!
# Numbers in a text

A text can be read as a whole number or as a number with a point.  A sign may stand in front.  A
number with a point has digits before its point, behind it or on both sides, and may end with a
power of ten; infinity and what is no number are written as words.
-/

namespace PassForge.Text

/-- The number that decimal digits stand for. -/
def digitsNumber (cs : List Char) : Nat := cs.foldl (fun n d => n * 10 + (d.toNat - 48)) 0

/-- The number that a text of decimal digits stands for. -/
def digitsNumber? (cs : List Char) : Option Nat :=
  if cs.isEmpty || !cs.all Char.isDigit then none else some (digitsNumber cs)

/-- Whether a text starts with a minus, and what follows the sign. -/
def splitSign : List Char → Bool × List Char
  | '-' :: cs => (true, cs)
  | '+' :: cs => (false, cs)
  | cs => (false, cs)

/-- The whole number that a text stands for. -/
def readInt? (cs : List Char) : Option Int :=
  let (negative, digits) := splitSign cs
  (digitsNumber? digits).map fun n => if negative then -(n : Int) else n

/-- A number with a point. -/
inductive Real where
  /-- The number `significand * 10 ^ exponent`. -/
  | finite (negative : Bool) (significand : Nat) (exponent : Int)
  | infinite (negative : Bool)
  | notNumber
deriving DecidableEq, Repr

/-- The power of ten at the end of a number, without its mark, or zero if there is none. -/
def readPower? : List Char → Option Int
  | [] => some 0
  | mark :: cs => if mark = 'e' ∨ mark = 'E' then readInt? cs else none

/-- The number with a point that a text stands for. -/
def readReal? (cs : List Char) : Option Real := do
  let (negative, cs) := splitSign cs
  match String.ofList (cs.map Char.toLower) with
  | "inf" | "infinity" => return .infinite negative
  | "nan" => return .notNumber
  | _ =>
    let whole := cs.takeWhile Char.isDigit
    let rest := cs.drop whole.length
    let point := if rest.head? = some '.' then rest.tail.takeWhile Char.isDigit else []
    let rest := if rest.head? = some '.' then rest.tail.drop point.length else rest
    if whole.isEmpty && point.isEmpty then none
    let power ← readPower? rest
    return .finite negative (digitsNumber (whole ++ point)) (power - point.length)

end PassForge.Text
