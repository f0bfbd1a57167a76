/-
# Sentential.Proofs.TruthTable.Numerals -- rows as numerals

A row of width `w` is a numeral of `w` binary digits. It is cut from the end of the two's complement
of a number, which a negative number goes on with ones for ever; so the number may have any sign and
any size, and what its row spells is the remainder by the power of two. Below the power of two
nothing is cut off: there rows and numbers correspond to each other one to one, and in the same
order.
-/
import Mathlib.Data.Int.Bitwise
import Sentential.Proofs.TruthTable.Enumeration

namespace Sentential

/-! ## The digits of two's complement -/

/-- Shifting to the right brings a digit of two's complement to the last place. -/
theorem decide_shiftRight_emod_two (index : Int) (place : Nat) :
    decide ((index >>> place) % 2 = 1) = index.testBit place := by
  cases index with
  | ofNat n =>
      show decide (((n >>> place : Nat) : Int) % 2 = 1) = n.testBit place
      rw [Nat.testBit_eq_decide_div_mod_eq, Nat.shiftRight_eq_div_pow]
      apply decide_eq_decide.mpr
      omega
  | negSucc n =>
      -- a negative number has the digits of its complement, each turned round
      show decide (Int.negSucc (n >>> place) % 2 = 1) = !n.testBit place
      rw [Nat.testBit_eq_decide_div_mod_eq, Nat.shiftRight_eq_div_pow, ← decide_not]
      apply decide_eq_decide.mpr
      omega

/-- The first column of a row has the highest of its digits, and the last column the lowest. -/
theorem getElem?_rowValues (index : Int) {width column : Nat} (h : column < width) :
    (rowValues index width)[column]? = some (index.testBit (width - column - 1)) := by
  rw [rowValues, List.getElem?_map, List.getElem?_range h, Option.map_some,
    decide_shiftRight_emod_two]

/-! ## Rows and the numbers below the power of two -/

/-- Below the power of two a number is what its row spells. -/
theorem valueOfDigits_rowValues_of_lt {index : Int} {width : Nat} (hindex : 0 ≤ index)
    (hlt : index < 2 ^ width) : (valueOfDigits (rowValues index width) : Int) = index := by
  rw [valueOfDigits_rowValues, Int.emod_eq_of_lt hindex hlt]

/-- Every row is that of one number below the power of two. -/
theorem existsUnique_rowValues {values : List Bool} {width : Nat} (h : values.length = width) :
    ∃! index : Int, (0 ≤ index ∧ index < 2 ^ width) ∧ rowValues index width = values := by
  subst h
  refine ⟨valueOfDigits values, ⟨⟨?_, ?_⟩, rowValues_valueOfDigits values⟩, ?_⟩
  · exact Int.natCast_nonneg _
  · exact_mod_cast valueOfDigits_lt values
  · rintro index ⟨⟨hindex, hlt⟩, hvalues⟩
    have hspelled := valueOfDigits_rowValues_of_lt hindex hlt
    rw [hvalues] at hspelled
    exact hspelled.symm

/-- A row has one column for each digit and spells the last digits of its number in two's
complement, which is what the number leaves over when it is divided by the power of two. Every row
of the width is that of exactly one number from zero up to the power, and the rows of these numbers
come, first column first and false before true, in the order of the numbers. -/
theorem row_is_numeral_of_its_number (width : Nat) :
    (∀ index : Int, (rowValues index width).length = width ∧
      (∀ column < width,
        (rowValues index width)[column]? = some (index.testBit (width - column - 1))) ∧
      (valueOfDigits (rowValues index width) : Int) = index % 2 ^ width) ∧
    (∀ values : List Bool, values.length = width →
      ∃! index : Int, (0 ≤ index ∧ index < 2 ^ width) ∧ rowValues index width = values) ∧
    ∀ i k : Int, 0 ≤ i ∧ i < 2 ^ width → 0 ≤ k ∧ k < 2 ^ width →
      (i < k ↔ rowValues i width < rowValues k width) := by
  refine ⟨?_, ?_, ?_⟩
  · intro index
    refine ⟨length_rowValues index width, ?_, valueOfDigits_rowValues index width⟩
    intro column hcolumn
    exact getElem?_rowValues index hcolumn
  · intro values hvalues
    exact existsUnique_rowValues hvalues
  · rintro i k ⟨hi, hilt⟩ ⟨hk, hklt⟩
    have hspelledi := valueOfDigits_rowValues_of_lt hi hilt
    have hspelledk := valueOfDigits_rowValues_of_lt hk hklt
    rw [← valueOfDigits_lt_iff (by simp)]
    omega

/-- In four columns a negative number spells what it leaves over when divided by sixteen; only
thirteen has this row among the numbers below sixteen. Where the first digit changes, the row
of the greater number comes later although all its other digits are less. -/
theorem minus_three_spells_thirteen :
    rowValues (-3) 4 = [true, true, false, true] ∧
    (rowValues (-3) 4)[2]? = some ((-3 : Int).testBit 1) ∧
    (valueOfDigits (rowValues (-3) 4) : Int) = 13 ∧
    (∀ index : Int, 0 ≤ index ∧ index < 16 → rowValues index 4 = rowValues (-3) 4 → index = 13) ∧
    rowValues 7 4 < rowValues 8 4 := by
  obtain ⟨hrow, hunique, horder⟩ := row_is_numeral_of_its_number 4
  obtain ⟨hlength, hdigit, hspelled⟩ := hrow (-3)
  refine ⟨rfl, hdigit 2 (by decide), hspelled, ?_, ?_⟩
  · intro index hindex hvalues
    exact (hunique (rowValues (-3) 4) hlength).unique ⟨hindex, hvalues⟩ ⟨by decide, rfl⟩
  · exact (horder 7 8 (by decide) (by decide)).mp (by decide)

end Sentential
