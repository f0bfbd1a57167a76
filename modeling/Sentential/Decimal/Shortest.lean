/-
# Sentential.Decimal.Shortest -- the fewest digits that read back

A binary64 number stands for every real number that rounds to it. Of the decimals in that
interval the shortest are those with the fewest digits, and of these the nearest is taken, an
even digit deciding a tie. Everything is exact arithmetic on naturals: the number and the two ends
of its interval are written over one common denominator.
-/

namespace Sentential.Decimal

/-- The positive number `value / denominator` with the ends of the interval that rounds to it;
the ends themselves belong to it when `closed`. -/
structure Rounding where
  low : Nat
  value : Nat
  high : Nat
  denominator : Nat
  closed : Bool
  deriving DecidableEq, Repr

/-- The interval of the binary64 number `m * 2 ^ q`. Below a power of two the numbers stand
twice as dense, so there the interval is half as long on the lower side. -/
def Rounding.ofBinary (m : Nat) (q : Int) : Rounding :=
  let scale := Nat.pow 2 (q - 2).toNat
  let below := if m = Nat.pow 2 52 ∧ -1074 < q then 1 else 2
  let denominator := Nat.pow 2 (2 - q).toNat
  ⟨(4 * m - below) * scale, 4 * m * scale, (4 * m + 2) * scale, denominator, m % 2 = 0⟩

/-- The decimal `digits * 10 ^ exponent`. -/
structure Scientific where
  digits : Nat
  exponent : Int
  deriving DecidableEq, Repr

/-- `x` with numerator and denominator so scaled that the decimal grid `10 ^ exponent` becomes the
grid of whole numbers. -/
def Rounding.onGrid (x : Rounding) (exponent : Int) : Rounding :=
  let up := Nat.pow 10 (-exponent).toNat
  { x with
    low := x.low * up, value := x.value * up, high := x.high * up
    denominator := x.denominator * Nat.pow 10 exponent.toNat }

/-- `d` lies in the interval. -/
def Rounding.admits (x : Rounding) (d : Nat) : Bool :=
  if x.closed then x.low ≤ d * x.denominator && d * x.denominator ≤ x.high
  else x.low < d * x.denominator && d * x.denominator < x.high

/-- The whole number in the interval that is nearest to the value, if it is one of the two next
to it. -/
def Rounding.nearest? (x : Rounding) : Option Nat :=
  let floor := x.value / x.denominator
  match x.admits floor, x.admits (floor + 1) with
  | false, false => none
  | true, false => some floor
  | false, true => some (floor + 1)
  | true, true =>
    let twice := 2 * (x.value % x.denominator)
    if twice < x.denominator ∨ (twice = x.denominator ∧ floor % 2 = 0) then some floor
    else some (floor + 1)

/-- How far the value has to be shifted to the left to reach one, for a value below one. -/
def Rounding.leadingZeros (x : Rounding) : Nat :=
  ((List.range 400).find? fun shift => x.denominator ≤ x.value * Nat.pow 10 shift).getD 0

/-- The exponent of the first digit: the power of ten that the value reaches and whose tenfold it
does not. -/
def Rounding.leading (x : Rounding) : Int :=
  if x.denominator ≤ x.value then (Nat.toDigits 10 (x.value / x.denominator)).length - 1
  else -x.leadingZeros

/-- The shortest decimal in the interval; 17 digits are always enough. -/
def Rounding.shortest (x : Rounding) : Option Scientific :=
  (List.range 17).findSome? fun (further : Nat) =>
    let exponent := x.leading - further
    (x.onGrid exponent).nearest?.map (⟨·, exponent⟩)

end Sentential.Decimal
