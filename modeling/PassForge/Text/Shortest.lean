/-!
# The fewest digits of a double

A double is a whole number times a power of two.  The numbers that are rounded to it form an
interval around it, and `shortest` gives the decimal number with the fewest digits inside, the
nearest if there are several.  All of this is exact arithmetic on natural numbers.

`floatText` writes these digits without a power of ten, and with at least one digit behind the
point.  `floatListing` writes very large and very small numbers with a power of ten.
-/

namespace PassForge.Text

/-- A positive number `top / bottom` and the ends of the interval that is rounded to it, as numbers
over the same bottom. -/
structure Interval where
  low : Nat
  top : Nat
  high : Nat
  bottom : Nat
  /-- Whether the ends belong to it. -/
  closed : Bool
deriving DecidableEq, Repr

/-- A decimal number `digits * 10 ^ exponent`. -/
structure Digits where
  digits : Nat
  exponent : Int
deriving DecidableEq, Repr

namespace Interval

/-- The interval of the double `significand * 2 ^ exponent`.  The gap to the next smaller double is
half as wide below a power of two, as `edge` says. -/
def ofBinary (significand : Nat) (exponent : Int) (edge : Bool) : Interval :=
  let scale := Nat.pow 2 exponent.toNat
  let below := if edge then 1 else 2
  { low := (4 * significand - below) * scale
    top := 4 * significand * scale
    high := (4 * significand + 2) * scale
    bottom := 4 * Nat.pow 2 (-exponent).toNat
    closed := significand % 2 == 0 }

/-- Whether a number over the bottom, times `scale`, lies inside. -/
def holds (i : Interval) (scale n : Nat) : Bool :=
  if i.closed then i.low * scale ≤ n && n ≤ i.high * scale
  else i.low * scale < n && n < i.high * scale

/-- The number of digits before the point, or of zeros behind it, negative. -/
def magnitude (i : Interval) : Int :=
  let whole := i.top / i.bottom
  if 0 < whole then (Nat.toDigits 10 whole).length
  else
    let inverse := (Nat.toDigits 10 ((i.bottom - 1) / i.top)).length
    1 - inverse

/-- The number with at most `count` digits inside, if there is one; the nearest of two. -/
def withDigits? (i : Interval) (count : Nat) : Option Digits :=
  let exponent := i.magnitude - count
  let scale := Nat.pow 10 (-exponent).toNat
  let unit := i.bottom * Nat.pow 10 exponent.toNat
  let value := i.top * scale
  let below := value / unit
  let above := below + 1
  let near := value % unit
  match i.holds scale (below * unit), i.holds scale (above * unit) with
  | true, true =>
    let up := unit < 2 * near || (unit == 2 * near && below % 2 == 1)
    some ⟨if up then above else below, exponent⟩
  | true, false => some ⟨below, exponent⟩
  | false, true => some ⟨above, exponent⟩
  | false, false => none

/-- The most digits that a double needs. -/
def maxDigits : Nat := 17

/-- The number with the fewest digits inside. -/
def shortest (i : Interval) : Digits :=
  ((List.range maxDigits).findSome? fun n => i.withDigits? (n + 1)).getD ⟨0, 0⟩

end Interval

/-- A decimal number without a power of ten, and with at least one digit behind the point. -/
def Digits.text (d : Digits) : String :=
  let digits := Nat.toDigits 10 d.digits
  let digits := digits ++ List.replicate d.exponent.toNat '0'
  let places := (-d.exponent).toNat
  let digits := List.replicate (places + 1 - digits.length) '0' ++ digits
  let whole := digits.take (digits.length - places)
  let fraction := (digits.drop (digits.length - places)).reverse.dropWhile (· == '0')
  String.ofList (whole ++ '.' :: (if fraction.isEmpty then ['0'] else fraction.reverse))

/-- A decimal number with one digit before the point and a power of ten; without a point if it has
one digit. -/
def Digits.scientificText (d : Digits) : String :=
  let all := Nat.toDigits 10 d.digits
  let exponent := d.exponent + all.length - 1
  let fraction := (all.tail.reverse.dropWhile (· == '0')).reverse
  let point := if fraction.isEmpty then [] else '.' :: fraction
  String.ofList (all.take 1 ++ point) ++ "e" ++ toString exponent

/-! ### Doubles -/

/-- The bits of a double behind its sign and exponent. -/
def fractionBits : Nat := 52

/-- A finite double, `significand * 2 ^ exponent` with a sign. -/
structure Binary where
  negative : Bool
  significand : Nat
  exponent : Int
  /-- Whether the gap to the next smaller one is half as wide. -/
  edge : Bool
deriving DecidableEq, Repr

/-- Whether a double has the sign of negative numbers. -/
def isNegative (x : Float) : Bool := x.toBits.toNat / Nat.pow 2 63 == 1

/-- The parts of a double, if it is finite. -/
def Binary.ofFloat? (x : Float) : Option Binary :=
  let bits := x.toBits.toNat
  let biased := bits / Nat.pow 2 fractionBits % 2048
  let fraction := bits % Nat.pow 2 fractionBits
  if biased = 2047 then none
  else some {
    negative := isNegative x
    significand := if biased = 0 then fraction else fraction + Nat.pow 2 fractionBits
    exponent := (max biased 1 : Nat) - 1075
    edge := fraction == 0 && 1 < biased }

/-- The text of a double, given how its digits are written. -/
def floatTextWith (written : Digits → String) (x : Float) : String :=
  if x.isNaN then "NaN"
  else
    let sign := if isNegative x then "-" else ""
    match Binary.ofFloat? x with
    | none => sign ++ "inf"
    | some b =>
      if b.significand = 0 then sign ++ "0.0"
      else sign ++ written (Interval.ofBinary b.significand b.exponent b.edge).shortest

/-- The text of a double without a power of ten. -/
def floatText (x : Float) : String := floatTextWith Digits.text x

/-- The text of a double, with a power of ten if it is far from one: from ten to the sixteenth on,
and below a ten-thousandth. -/
def floatListing (x : Float) : String :=
  if 1e16 ≤ x.abs || (x.abs < 1e-4 && x != 0) then floatTextWith Digits.scientificText x
  else floatText x

end PassForge.Text
