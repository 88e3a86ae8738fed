/-!
# Decimal numbers that fit into a double

A number in decimal notation is read as a significand times a power of ten.  The significand is a
word of 64 bits: from the first digit on that does not fit any more digits are left out, and those
before the point raise the power.

The significand and the power are each rounded to a double, and so is their product.  `finite` says
whether that is a number.  A number close to the largest double can therefore be too large although
it is below the bound, and the other way round.
-/

namespace PassForge

/-- A number `significand * 10 ^ exponent`. -/
structure Decimal where
  significand : Nat
  exponent : Int
deriving DecidableEq, Repr

namespace Decimal

/-- Significands are below this number. -/
def significandLimit : Nat := 18446744073709551616

/-- Puts digits behind a number as long as it stays a significand, and says which are left. -/
def gather (significand : Nat) : List Char → Nat × List Char
  | [] => (significand, [])
  | d :: rest =>
    let more := significand * 10 + (d.toNat - 48)
    if more < significandLimit then gather more rest else (significand, d :: rest)

/-- The number with these digits before and after its point, times a power of ten. -/
def ofDigits (whole fraction : List Char) (power : Int) : Decimal :=
  let (high, skipped) := gather 0 whole
  let (significand, dropped) := gather high fraction
  ⟨significand, power + skipped.length - (fraction.length - dropped.length)⟩

/-- The bits of the significand of a double. -/
def precision : Nat := 53

/-- The number of `precision` bits closest to `n`, with zeros behind them.  A tie goes to the even
one. -/
def rounded (n : Nat) : Nat :=
  let unit := Nat.pow 2 (Nat.log2 n + 1 - precision)
  let below := n / unit
  let rest := n % unit
  let up := unit < 2 * rest || (unit == 2 * rest && below % 2 == 1)
  (if up then below + 1 else below) * unit

/-- Numbers from this one on are rounded to no double. -/
def doubleLimit : Nat := Nat.pow 2 1024 - Nat.pow 2 970

/-- The largest power of ten that is a double. -/
def maxPower : Nat := 308

/-- Whether the number, rounded step by step, is a double. -/
def finite (d : Decimal) : Bool :=
  d.significand == 0 || d.exponent ≤ 0 ||
    (d.exponent ≤ maxPower &&
      rounded d.significand * rounded (Nat.pow 10 d.exponent.toNat) < doubleLimit)

end Decimal

end PassForge
