/-
# Sentential.TruthTable.Enumeration -- all rows of a formula

The rows of a table over `n` variables are the binary numerals of `n` digits, from the greatest
down to zero, the first variable being the most significant digit. A formula is evaluated in each
of them. There is a limit on the number of variables, which is checked before anything else. How
many rows there are is told before the first of them, so that there is nothing to enumerate if this
number cannot be written.
-/
import Sentential.Formula.Evaluation
import Sentential.Formula.Variables
import Sentential.Journal.Script
import Sentential.Limit
import Sentential.Numeral
import Sentential.Text.Quoted
import Sentential.TruthTable.Basic

namespace Sentential

/-- The last `width` binary digits of `index`, most significant first; a negative number has the
digits of its two's complement. -/
def rowValues (index : Int) (width : Nat) : List Bool :=
  (List.range width).map fun column => (index >>> (width - column - 1)) % 2 = 1

/-- The number that binary digits spell, most significant first. -/
def valueOfDigits (digits : List Bool) : Nat :=
  digits.foldl (fun n digit => 2 * n + digit.toNat) 0

/-- The greatest number of variables enumerated unless another is asked for. -/
def defaultMaxVariables : Int := 16

namespace TruthTable

/-- The row with these values of a formula with these nodes, listed operands first. -/
def rowOf (columns : List String) (nodes : List Formula) (values : List Bool) :
    Except Fault Row :=
  match (Formula.evaluation (.ofValues columns values)).run nodes with
  | .ok result => .ok ⟨values, result⟩
  | .error fault => .error fault

/-- The rows numbered below `count`, the greatest number first, in front of `rows`, which are
given last row first; the first fault ends the list. -/
def rowsBelow (columns : List String) (nodes : List Formula) :
    (count : Nat) → (rows : List Row) → Except Fault (List Row)
  | 0, rows => .ok rows.reverse
  | index + 1, rows =>
    match rowOf columns nodes (rowValues index columns.length) with
    | .ok row => rowsBelow columns nodes index (row :: rows)
    | .error fault => .error fault

/-- The number of rows over `columns`: each column doubles it. -/
def rowCount (columns : List String) : Nat := Nat.pow 2 columns.length

/-- All rows of `f` over `columns`. -/
def allRows (f : Formula) (columns : List String) : Except Fault (List Row) :=
  rowsBelow columns f.postorder (rowCount columns) []

/-- The fault of having more variables than allowed. It tells how many rows the limit allows, and
a limit for which that number has no value is a fault of its own. -/
def excess (count : Nat) (limit : Int) : Fault :=
  if Decimal.hasPowerOfTwo limit then .tooManyVariables count limit else .exponentOutOfRange

/-- The numbers that are told before the first row: how many rows there are, or, with more columns
than allowed, how many there are, how many are allowed, and how many rows these would have. A power
of two that is no whole number is told in a few digits. -/
def numbersTold (columns : Nat) : Limit → List Int
  | .whole limit =>
    if limit < columns then
      if 0 ≤ limit then [columns, limit, (Nat.pow 2 limit.toNat : Nat)] else [columns, limit]
    else [(Nat.pow 2 columns : Nat)]
  | .blank => []

/-- What is checked before the first row: that the numbers to be told can be written, and that there
are no more columns than allowed. -/
def sizeCheck (columns : Nat) (maxVariables : Limit) (longest : Option Nat := none) :
    Except Fault Unit :=
  (Numeral.check longest (numbersTold columns maxVariables)).bind fun () =>
    maxVariables.check columns (excess columns)

@[simp]
theorem sizeCheck_none (columns : Nat) (maxVariables : Limit) :
    sizeCheck columns maxVariables = maxVariables.check columns (excess columns) := rfl

section SizeCheck

variable {columns : Nat} {maxVariables : Limit} {longest : Option Nat}

/-- Where every number can be written, only the number of columns is checked. -/
theorem sizeCheck_of_written
    (h : ∀ n ∈ numbersTold columns maxVariables, Numeral.isWritten longest n) :
    sizeCheck columns maxVariables longest = maxVariables.check columns (excess columns) := by
  rw [sizeCheck, Numeral.check_eq_ok_iff.mpr h]
  rfl

/-- A number that cannot be written is refused before the number of columns is looked at. -/
theorem sizeCheck_of_not_written
    (h : ¬ ∀ n ∈ numbersTold columns maxVariables, Numeral.isWritten longest n) :
    ∃ digits, longest = some digits ∧
      sizeCheck columns maxVariables longest = .error (.numberTooLong digits) := by
  cases hcheck : Numeral.check longest (numbersTold columns maxVariables) with
  | ok _ => exact absurd (Numeral.check_eq_ok_iff.mp hcheck) h
  | error fault =>
      obtain ⟨digits, hdigits, rfl, -⟩ := Numeral.check_eq_error_iff.mp hcheck
      refine ⟨digits, hdigits, ?_⟩
      rw [sizeCheck, hcheck]
      rfl

end SizeCheck

/-- The table of `f` over `columns`, unless there are more of them than allowed, or too many to tell
the number of rows in `longest` digits. -/
def enumerate (f : Formula) (columns : List String) (maxVariables : Limit)
    (longest : Option Nat := none) : Script TruthTable := do
  .ofExcept (sizeCheck columns.length maxVariables longest)
  .detail ("Enumerating " ++ toString (rowCount columns) ++ " rows over variables " ++
    Text.quotedList columns)
  let rows ← .ofExcept (allRows f columns)
  let trues := rows.countP Row.result
  .detail ("Truth table complete: " ++ toString trues ++ " true rows, " ++
    toString (rows.length - trues) ++ " false rows")
  return ⟨columns, rows⟩

end TruthTable

end Sentential
