/-
# Sentential.Proofs.TruthTable.Rows -- which rows a table has

A number spells the row of its last binary digits, and every row of that width is spelled by some
number below the power of two. So the rows of a table are all rows of its width, and where every
name of the formula has a column, each row's result is the meaning of the formula under the values
of the row: `TruthTable.complete` is that table without the counter, and enumeration yields it.
-/
import Mathlib.Algebra.Ring.Int.Defs
import Mathlib.Algebra.Ring.Nat
import Sentential.Proofs.Formula.Meaning
import Sentential.TruthTable.Enumeration

namespace Sentential

/-! ## Rows and numbers -/

/-- The first digit of a row is the highest of as many as there are columns. -/
theorem rowValues_succ (index : Int) (width : Nat) :
    rowValues index (width + 1) = decide (index / 2 ^ width % 2 = 1) :: rowValues index width := by
  rw [rowValues, List.range_succ_eq_map, List.map_cons, List.map_map, rowValues]
  simp [Int.shiftRight_eq_div_pow, Function.comp_def]

@[simp]
theorem length_rowValues (index : Int) (width : Nat) : (rowValues index width).length = width := by
  simp [rowValues]

/-- What stands before the last digits does not matter to them. -/
theorem rowValues_add_mul (index high : Int) (width further : Nat) :
    rowValues (index + high * 2 ^ (width + further)) width = rowValues index width := by
  induction width generalizing further with
  | zero => rfl
  | succ width ih =>
      have hlower : rowValues (index + high * 2 ^ (width + 1 + further)) width =
          rowValues index width := by
        rw [Nat.add_assoc]
        exact ih (1 + further)
      have hdigit : (index + high * 2 ^ (width + 1 + further)) / 2 ^ width % 2 =
          index / 2 ^ width % 2 := by
        have hne : (2 : Int) ^ width ≠ 0 := Int.pow_ne_zero (by decide)
        have hpower : high * 2 ^ (width + 1 + further) = (high * 2 ^ further * 2) * 2 ^ width := by
          rw [Int.pow_add, Int.pow_succ]
          ac_rfl
        rw [hpower, Int.add_mul_ediv_right _ _ hne, Int.add_mul_emod_self_right]
      rw [rowValues_succ, rowValues_succ, hlower, hdigit]

theorem foldl_digits (digits : List Bool) (n : Nat) :
    digits.foldl (fun n digit => 2 * n + digit.toNat) n =
      n * 2 ^ digits.length + valueOfDigits digits := by
  rw [valueOfDigits]
  induction digits generalizing n with
  | nil => simp
  | cons digit rest ih =>
      rw [List.foldl_cons, List.foldl_cons, ih, ih (2 * 0 + digit.toNat), List.length_cons,
        Nat.pow_succ, Nat.add_mul, Nat.add_mul]
      ac_nf
      omega

/-- The first digit counts for the highest power. -/
theorem valueOfDigits_cons (digit : Bool) (rest : List Bool) :
    valueOfDigits (digit :: rest) = digit.toNat * 2 ^ rest.length + valueOfDigits rest := by
  rw [valueOfDigits, List.foldl_cons, foldl_digits]
  simp

theorem valueOfDigits_lt (digits : List Bool) : valueOfDigits digits < 2 ^ digits.length := by
  induction digits with
  | nil => decide
  | cons digit rest ih =>
      rw [valueOfDigits_cons, List.length_cons, Nat.pow_succ]
      cases digit
      · simp only [Bool.toNat_false, Nat.zero_mul]
        omega
      · simp only [Bool.toNat_true, Nat.one_mul]
        omega

/-- Every row is spelled by the number that its digits make. -/
theorem rowValues_valueOfDigits (digits : List Bool) :
    rowValues (valueOfDigits digits) digits.length = digits := by
  induction digits with
  | nil => rfl
  | cons digit rest ih =>
      have hlt : (valueOfDigits rest : Int) < 2 ^ rest.length := by
        exact_mod_cast valueOfDigits_lt rest
      have hne : (2 : Int) ^ rest.length ≠ 0 := Int.pow_ne_zero (by decide)
      -- the first digit counts a multiple of the power, which the other digits stay below
      have hcast : (valueOfDigits (digit :: rest) : Int) =
          valueOfDigits rest + (digit.toNat : Int) * 2 ^ (rest.length + 0) := by
        rw [valueOfDigits_cons]
        push_cast
        rw [Nat.add_zero, Int.add_comm]
      have hhigh : (valueOfDigits rest + (digit.toNat : Int) * 2 ^ (rest.length + 0)) /
          2 ^ rest.length % 2 = digit.toNat := by
        rw [Nat.add_zero, Int.add_mul_ediv_right _ _ hne,
          Int.ediv_eq_zero_of_lt (Int.natCast_nonneg _) hlt]
        cases digit <;> rfl
      rw [List.length_cons, rowValues_succ, hcast, hhigh, rowValues_add_mul, ih]
      cases digit <;> rfl

/-! ## All rows of a width -/

/-- The rows of a width, in the order of a table. -/
def allValues (width : Nat) : List (List Bool) :=
  (List.range (2 ^ width)).reverse.map fun (index : Nat) => rowValues index width

theorem mem_allValues {width : Nat} {values : List Bool} :
    values ∈ allValues width ↔ values.length = width := by
  simp only [allValues, List.mem_map, List.mem_reverse, List.mem_range]
  constructor
  · rintro ⟨index, _, rfl⟩
    exact length_rowValues index width
  · rintro rfl
    exact ⟨valueOfDigits values, valueOfDigits_lt values, rowValues_valueOfDigits values⟩

/-! ## The values of a row -/

namespace Assignment

/-- Exactly the columns of a row have values in it. -/
theorem binds_ofValues {columns : List String} {values : List Bool}
    (h : values.length = columns.length) {name : String} :
    (ofValues columns values).Binds name ↔ name ∈ columns := by
  rw [Binds, get?, ofValues, ofPairs, List.lookup_isSome_iff]
  constructor
  · rintro ⟨⟨column, value⟩, hpair, hname⟩
    obtain rfl : name = column := by simpa using hname
    exact (List.of_mem_zip (List.mem_reverse.mp hpair)).1
  · intro hname
    obtain ⟨i, hi, rfl⟩ := List.getElem_of_mem hname
    refine ⟨(columns[i], values[i]), List.mem_reverse.mpr ?_, by simp⟩
    have hzip : i < (columns.zip values).length := by simp [h, hi]
    have hget : (columns.zip values)[i] = (columns[i], values[i]) := by simp
    exact hget ▸ List.getElem_mem hzip

theorem lookup_of_forall {pairs : List (String × Bool)} {v : String → Bool} {name : String}
    (h : ∀ pair ∈ pairs, pair.2 = v pair.1) {value : Bool}
    (hvalue : pairs.lookup name = some value) : value = v name := by
  induction pairs with
  | nil => exact absurd hvalue (by simp)
  | cons pair rest ih =>
      obtain ⟨column, first⟩ := pair
      rw [List.lookup_cons] at hvalue
      split at hvalue
      · next hname =>
          obtain rfl : name = column := by simpa using hname
          obtain rfl := Option.some.inj hvalue
          exact h _ (List.mem_cons_self ..)
      · exact ih (fun p hp => h p (List.mem_cons_of_mem _ hp)) hvalue

/-- A row that takes its values from `v` has the values of `v`, however often a name has a
column. -/
theorem value_ofValues_map {columns : List String} {v : String → Bool} {name : String}
    (hname : name ∈ columns) : (ofValues columns (columns.map v)).value name = v name := by
  have hbinds : (ofValues columns (columns.map v)).Binds name :=
    (binds_ofValues (List.length_map ..)).mpr hname
  obtain ⟨found, hfound⟩ := Option.isSome_iff_exists.mp hbinds
  have hpairs : ∀ pair ∈ (columns.zip (columns.map v)).reverse, pair.2 = v pair.1 := by
    intro pair hpair
    rw [List.mem_reverse, List.zip_map_right, List.mem_map] at hpair
    obtain ⟨⟨c, c'⟩, hmem, rfl⟩ := hpair
    obtain ⟨i, hi, heq⟩ := List.getElem_of_mem hmem
    simp at heq
    simp [← heq.1, ← heq.2]
  rw [value, truth?, hfound]
  exact lookup_of_forall hpairs hfound

end Assignment

/-! ## The table of a formula -/

namespace TruthTable

/-- The table with all rows over `columns`, each with the meaning of `f` under its values. -/
def complete (f : Formula) (columns : List String) : TruthTable :=
  ⟨columns, (allValues columns.length).map fun values =>
    ⟨values, f.meaning (Assignment.ofValues columns values).value⟩⟩

theorem mem_rows_complete {f : Formula} {columns : List String} {row : Row} :
    row ∈ (complete f columns).rows ↔ row.values.length = columns.length ∧
      row.result = f.meaning (Assignment.ofValues columns row.values).value := by
  simp only [complete, List.mem_map, mem_allValues]
  constructor
  · rintro ⟨values, hlength, rfl⟩
    exact ⟨hlength, rfl⟩
  · rintro ⟨hlength, hresult⟩
    exact ⟨row.values, hlength, by rw [← hresult]⟩

theorem rowOf_of_covers {f : Formula} {columns : List String} {values : List Bool}
    (hcovers : ∀ name ∈ f.leaves, name ∈ columns) (h : values.length = columns.length) :
    rowOf columns f.postorder values =
      .ok ⟨values, f.meaning (Assignment.ofValues columns values).value⟩ := by
  have hevaluate := Formula.evaluate_of_binds (a := .ofValues columns values) (f := f)
    fun name hname => (Assignment.binds_ofValues h).mpr (hcovers name hname)
  rw [Formula.evaluate] at hevaluate
  rw [rowOf, hevaluate]

theorem rowsBelow_of_covers {f : Formula} {columns : List String}
    (hcovers : ∀ name ∈ f.leaves, name ∈ columns) (count : Nat) (rows : List Row) :
    rowsBelow columns f.postorder count rows =
      .ok (rows.reverse ++ (List.range count).reverse.map fun (index : Nat) =>
        ⟨rowValues index columns.length,
          f.meaning (Assignment.ofValues columns (rowValues index columns.length)).value⟩) := by
  -- on the counter, whatever rows have been found above it
  induction count generalizing rows with
  | zero => simp [rowsBelow]
  | succ count ih =>
      rw [rowsBelow, rowOf_of_covers hcovers (length_rowValues ..)]
      simp only
      rw [ih, List.range_succ, List.reverse_append]
      simp

theorem allRows_of_covers {f : Formula} {columns : List String}
    (hcovers : ∀ name ∈ f.leaves, name ∈ columns) :
    allRows f columns = .ok (complete f columns).rows := by
  rw [allRows, rowsBelow_of_covers hcovers, complete, allValues, List.map_map]
  rfl

/-- Where every name has a column, enumeration gives the complete table, unless the check of its
size fails. -/
theorem enumerate_of_covers {f : Formula} {columns : List String}
    (hcovers : ∀ name ∈ f.leaves, name ∈ columns) (limit : Limit) (longest : Option Nat) :
    (enumerate f columns limit longest).outcome =
      (sizeCheck columns.length limit longest).map fun _ => complete f columns := by
  simp only [enumerate, Script.outcome_bind, Script.outcome_ofExcept, Script.outcome_detail,
    Script.outcome_pure, allRows_of_covers hcovers]
  cases sizeCheck columns.length limit longest <;> rfl

theorem enumerate_of_le {f : Formula} {columns : List String} {limit : Int}
    (hcovers : ∀ name ∈ f.leaves, name ∈ columns) (hlimit : (columns.length : Int) ≤ limit) :
    (enumerate f columns limit).outcome = .ok (complete f columns) := by
  have hcheck : Limit.check columns.length (excess columns.length) limit = .ok () :=
    Limit.check_eq_ok_iff.mpr ⟨limit, rfl, hlimit⟩
  rw [enumerate_of_covers hcovers, sizeCheck_none, hcheck]
  rfl

end TruthTable

end Sentential
