/-
# Sentential.NormalForm.Derivation -- the canonical forms of a table

The disjunctive form has a clause for every true row, which describes the row; the conjunctive
form has a clause for every false row, which rules the row out. Clauses stand in the order of the
rows and literals in the order of the columns. Nothing is simplified.
-/
import Sentential.Journal.Script
import Sentential.NormalForm.Basic
import Sentential.TruthTable.Basic

namespace Sentential

/-- A literal for each column of a row, negated where the value is `sign`. -/
def Row.literals (columns : List String) (row : Row) (sign : Bool) : List Literal :=
  List.zipWith (fun name value => ⟨name, value == sign⟩) columns row.values

/-- The clause that describes a row: variables that are false in it are negated. -/
def Row.minterm (columns : List String) (row : Row) : Clause :=
  ⟨row.literals columns false, .and⟩

/-- The clause that rules a row out: variables that are true in it are negated. -/
def Row.maxterm (columns : List String) (row : Row) : Clause :=
  ⟨row.literals columns true, .or⟩

namespace NormalForm

/-- The disjunctive form of the true rows. -/
def disjunctive (columns : List String) (rows : List Row) : NormalForm :=
  ⟨.disjunctive, (rows.filter Row.result).map (Row.minterm columns)⟩

/-- The conjunctive form of the false rows. -/
def conjunctive (columns : List String) (rows : List Row) : NormalForm :=
  ⟨.conjunctive, (rows.filter fun row => !row.result).map (Row.maxterm columns)⟩

end NormalForm

/-- The two canonical forms of one table. -/
structure CanonicalForms where
  disjunctive : NormalForm
  conjunctive : NormalForm
  deriving DecidableEq, Repr

/-- Derives the two canonical forms of a table and keeps a record of it. -/
def TruthTable.canonicalForms (table : TruthTable) : Script CanonicalForms := do
  let dnf := NormalForm.disjunctive table.columns table.rows
  let cnf := NormalForm.conjunctive table.columns table.rows
  .detail ("Derived DNF with " ++ toString dnf.clauses.length ++ " minterms and CNF with " ++
    toString cnf.clauses.length ++ " maxterms")
  return ⟨dnf, cnf⟩

end Sentential
