/-
# Sentential.TruthTable.Basic -- tables of truth values

A table has a column for each of its variables and rows that give every column a value and the
whole a result. A row may be shorter or longer than the list of variables, and a variable may
have more than one column; columns and values are paired as far as both reach, and of two columns
of one variable the last counts.
-/
import Sentential.Assignment

namespace Sentential

/-- One line of a table. -/
structure Row where
  values : List Bool
  result : Bool
  deriving DecidableEq, Repr, Inhabited

/-- The names of the columns, and the rows. -/
structure TruthTable where
  columns : List String
  rows : List Row
  deriving DecidableEq, Repr, Inhabited

/-- The assignment that a row of values makes. -/
def Assignment.ofValues (columns : List String) (values : List Bool) : Assignment Bool :=
  .ofPairs (columns.zip values)

namespace TruthTable

/-- The assignment of a row. -/
def assignment (table : TruthTable) (row : Row) : Assignment Bool :=
  .ofValues table.columns row.values

/-- The column of results. -/
def results (table : TruthTable) : List Bool := table.rows.map Row.result

/-- Every result is true. -/
def isTautology (table : TruthTable) : Bool := table.rows.all Row.result

/-- No result is true. -/
def isContradiction (table : TruthTable) : Bool := !table.rows.any Row.result

end TruthTable

end Sentential
