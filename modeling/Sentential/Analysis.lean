/-
# Sentential.Analysis -- from a text to its table and normal forms

The stages run in a fixed order: read the formula, collect its variables, enumerate its table,
derive the two forms. The first stage that fails decides the outcome, and no later stage runs.
-/
import Sentential.NormalForm.Derivation
import Sentential.Parser.Reader
import Sentential.Token.Respelling
import Sentential.TruthTable.Enumeration

namespace Sentential

/-- Everything derived from one text. -/
structure Analysis where
  source : Source
  formula : Formula
  vars : List String
  table : TruthTable
  dnf : NormalForm
  cnf : NormalForm
  deriving DecidableEq, Repr

namespace Analysis

/-! ## Records -/

/-- What is recorded when an analysis begins. -/
def openingRemark (source : Source) : String :=
  "=== Starting pipeline for: " ++ source.quoted ++ " ==="

/-- What is recorded when an analysis is complete. -/
def closingRemark (rows minterms maxterms : Int) : String :=
  "Pipeline complete: " ++ toString rows ++ " rows, " ++ toString minterms ++ " minterms, " ++
    toString maxterms ++ " maxterms"

/-- What is recorded when a text has been found to be a formula. -/
def validRemark (source : Source) : String := "✅ Formula is well-formed: " ++ source.shown

/-! ## The stages -/

/-- The analysis of a text within two limits: on the number of variables and on the nesting. No
number is written that has more than `longest` digits. -/
def run (source : Source) (maxVariables maxDepth : Limit) (longest : Option Nat := none) :
    Script Analysis := do
  .detail (openingRemark source)
  let formula ← parse source maxDepth
  let vars := formula.vars
  .detail ("Collected variables: " ++ Text.quotedList vars)
  let table ← TruthTable.enumerate formula vars maxVariables longest
  let forms ← table.canonicalForms
  .detail (closingRemark table.rows.length forms.disjunctive.clauses.length
    forms.conjunctive.clauses.length)
  return ⟨source, formula, vars, table, forms.disjunctive, forms.conjunctive⟩

end Analysis

/-- The tokens of a text in the spelling of `symbols`; the text is scanned and not parsed. -/
def respell (symbols : Symbols) (source : Source) : Script String := do
  let tokens ← tokenize source
  return respelling symbols tokens

end Sentential
