/-
# Sentential.Decimal.PowerOfTwo -- the text of a power of two

A power with a natural exponent is a whole number and is written in full. A power with a negative
exponent is written as the binary64 number nearest to it, in the fewest digits that read back; it
is zero once it lies below the least positive number. A negative exponent has to be within the
range of binary64 numbers itself.
-/
import Sentential.Decimal.Shortest

namespace Sentential.Decimal

/-- How a decimal below one is written. -/
structure FractionLayout where
  /-- The least exponent of the first digit that is still written with zeros after the point. -/
  leastPositional : Int
  /-- The least number of digits in a written exponent. -/
  exponentWidth : Nat
  deriving DecidableEq, Repr

/-- Up to three zeros follow the point before an exponent is written, and the exponent then has
two digits at least. -/
def FractionLayout.default : FractionLayout := ⟨-4, 2⟩

/-- The text of a positive decimal below one; zeros after the last other digit are left out. -/
def Scientific.fractionText (layout : FractionLayout) (x : Scientific) : String :=
  let digits := Nat.toDigits 10 x.digits
  let leading := x.exponent + digits.length - 1
  let digits := (digits.reverse.dropWhile (· == '0')).reverse
  if layout.leastPositional ≤ leading then
    "0." ++ .ofList (List.replicate (-leading - 1).toNat '0' ++ digits)
  else
    let magnitude := Nat.toDigits 10 (-leading).toNat
    let fraction := if digits.length ≤ 1 then [] else '.' :: digits.drop 1
    .ofList (digits.take 1 ++ fraction) ++ "e-" ++
      .ofList (List.replicate (layout.exponentWidth - magnitude.length) '0' ++ magnitude)

/-- The binary64 number `2 ^ exponent`, for a negative exponent, as a rounding interval; below
`2 ^ -1022` the last place stays at `2 ^ -1074`. -/
def Rounding.ofPower (exponent : Int) : Rounding :=
  if -1022 ≤ exponent then .ofBinary (.pow 2 52) (exponent - 52)
  else .ofBinary (.pow 2 (exponent + 1074).toNat) (-1074)

/-- The least whole number that is rounded to no binary64 number: it lies halfway between the
greatest of them and the next power of two, and a tie goes up there. -/
def leastUnrounded : Nat := .pow 2 1024 - .pow 2 970

/-- Whether `2 ^ exponent` has a value. -/
def hasPowerOfTwo (exponent : Int) : Bool := -(leastUnrounded : Int) < exponent

theorem hasPowerOfTwo_of_pos {exponent : Int} (h : 0 < exponent) : hasPowerOfTwo exponent := by
  rw [hasPowerOfTwo, decide_eq_true_iff]
  omega

/-- The greatest exponent that is out of range. -/
theorem not_hasPowerOfTwo_leastUnrounded : ¬ hasPowerOfTwo (-(leastUnrounded : Int)) := by
  rw [hasPowerOfTwo, decide_eq_true_iff]
  exact Int.lt_irrefl _

/-- The text of `2 ^ exponent`, where it has a value. -/
def powerOfTwo (exponent : Int) : String :=
  if 0 ≤ exponent then toString (Nat.pow 2 exponent.toNat)
  else if exponent < -1074 then "0.0"
  else
    match (Rounding.ofPower exponent).shortest with
    | some x => x.fractionText .default
    | none => "0.0"

end Sentential.Decimal
