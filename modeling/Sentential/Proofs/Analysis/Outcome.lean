/-
# Sentential.Proofs.Analysis.Outcome -- what an analysis comes to

Two stages of an analysis can fail: reading the formula, and the check of the size of its table.
A table over the variables of its own formula covers the formula, so enumeration goes through, and
the forms of a table always exist. What an analysis then holds is fixed by the formula:
`Analysis.complete`.
-/
import Sentential.Analysis
import Sentential.Proofs.Formula.Variables
import Sentential.Proofs.NormalForm.Canonical

namespace Sentential.Analysis

/-- Everything derived from a formula that was read from `source`. -/
def complete (source : Source) (f : Formula) : Analysis where
  source := source
  formula := f
  vars := f.vars
  table := .complete f f.vars
  dnf := .disjunctive f.vars (TruthTable.complete f f.vars).rows
  cnf := .conjunctive f.vars (TruthTable.complete f f.vars).rows

/-- The two checks of an analysis decide it, the one on the formula first. -/
theorem run_within_outcome (source : Source) (maxVariables maxDepth : Limit)
    (longest : Option Nat) :
    (run source maxVariables maxDepth longest).outcome =
      (parse source maxDepth).outcome.bind fun f =>
        (TruthTable.sizeCheck f.vars.length maxVariables longest).map fun _ =>
          complete source f := by
  simp only [run, Script.outcome_bind, Script.outcome_detail, Script.outcome_pure]
  cases (parse source maxDepth).outcome with
  | error fault => rfl
  | ok f =>
      have hcovers : ∀ name ∈ f.leaves, name ∈ f.vars := by
        intro name hname
        exact Formula.mem_vars.mpr hname
      simp only [Except.bind, TruthTable.enumerate_of_covers hcovers]
      cases TruthTable.sizeCheck f.vars.length maxVariables longest <;> rfl

/-- An analysis that succeeds is the complete one of the formula that was read. -/
theorem run_within_eq_ok_iff {source : Source} {maxVariables maxDepth : Limit}
    {longest : Option Nat} {result : Analysis} :
    (run source maxVariables maxDepth longest).outcome = .ok result ↔
      ∃ f, (parse source maxDepth).outcome = .ok f ∧
        TruthTable.sizeCheck f.vars.length maxVariables longest = .ok () ∧
        result = complete source f := by
  rw [run_within_outcome]
  cases hparse : (parse source maxDepth).outcome with
  | error fault => simp [Except.bind]
  | ok f =>
      cases hcheck : TruthTable.sizeCheck f.vars.length maxVariables longest with
      | error fault => simp [Except.bind, Except.map, hcheck]
      | ok u => simp [Except.bind, Except.map, hcheck, eq_comm]

/-! ## Numbers of any length -/

theorem run_outcome (source : Source) (maxVariables maxDepth : Limit) :
    (run source maxVariables maxDepth).outcome =
      (parse source maxDepth).outcome.bind fun f =>
        (maxVariables.check f.vars.length (TruthTable.excess f.vars.length)).map fun _ =>
          complete source f :=
  run_within_outcome source maxVariables maxDepth none

theorem run_eq_ok_iff {source : Source} {maxVariables maxDepth : Limit} {result : Analysis} :
    (run source maxVariables maxDepth).outcome = .ok result ↔
      ∃ f, (parse source maxDepth).outcome = .ok f ∧
        maxVariables.check f.vars.length (TruthTable.excess f.vars.length) = .ok () ∧
        result = complete source f :=
  run_within_eq_ok_iff

end Sentential.Analysis
