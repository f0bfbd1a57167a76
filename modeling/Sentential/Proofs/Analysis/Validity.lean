/-
# Sentential.Proofs.Analysis.Validity -- what a table decides

The rows of a table are finitely many, and the assignments to its variables are not. But any values
of the columns have a row, and the result of the row is what the formula means under them; nothing
else that an assignment binds is read. So the table of a formula tells whether the formula is
constant, over any columns that cover it, and so does each of its forms by being a constant.
-/
import Sentential.Proofs.Analysis.Canonicity

namespace Sentential

namespace TruthTable

variable {table : TruthTable}

theorem isTautology_iff : table.isTautology ↔ ∀ row ∈ table.rows, row.result = true := by
  simp [isTautology]

theorem isContradiction_iff : table.isContradiction ↔ ∀ row ∈ table.rows, row.result = false := by
  simp [isContradiction]

/-- A table has the result of a constant in all rows exactly if its form of that kind is this
constant. -/
theorem constant?_form_eq_iff (table : TruthTable) (kind : FormKind) :
    (table.form kind).constant? = some kind.unit ↔ ∀ row ∈ table.rows, row.result = kind.unit :=
  (table.constant?_form_iff kind).trans (table.clauses_form_eq_nil_iff kind)

end TruthTable

/-- The table of a formula, over any columns that cover it, decides whether the formula is true
under all assignments and whether it is false under all, and so do the forms of the table. It is
never both. -/
theorem table_decides_validity {f : Formula} {columns : List String} {limit : Int}
    (hcovers : ∀ name ∈ f.leaves, name ∈ columns) (hlimit : (columns.length : Int) ≤ limit) :
    ∃ table forms, (TruthTable.enumerate f columns limit).outcome = .ok table ∧
      table.canonicalForms.outcome = .ok forms ∧
      (table.isTautology ↔ forms.conjunctive.constant? = some true) ∧
      (forms.conjunctive.constant? = some true ↔ f.Constantly true) ∧
      (table.isContradiction ↔ forms.disjunctive.constant? = some false) ∧
      (forms.disjunctive.constant? = some false ↔ f.Constantly false) ∧
      ¬ (table.isTautology ∧ table.isContradiction) := by
  let table := TruthTable.complete f columns
  have htrue : table.isTautology ↔ f.Constantly true :=
    TruthTable.isTautology_iff.trans (Formula.forall_result_iff hcovers)
  have hfalse : table.isContradiction ↔ f.Constantly false :=
    TruthTable.isContradiction_iff.trans (Formula.forall_result_iff hcovers)
  have hconjunctive : (table.form .conjunctive).constant? = some true ↔ f.Constantly true :=
    (table.constant?_form_eq_iff .conjunctive).trans (Formula.forall_result_iff hcovers)
  have hdisjunctive : (table.form .disjunctive).constant? = some false ↔ f.Constantly false :=
    (table.constant?_form_eq_iff .disjunctive).trans (Formula.forall_result_iff hcovers)
  refine ⟨table, ⟨table.form .disjunctive, table.form .conjunctive⟩,
    TruthTable.enumerate_of_le hcovers hlimit, rfl,
    htrue.trans hconjunctive.symm, hconjunctive, hfalse.trans hdisjunctive.symm, hdisjunctive, ?_⟩
  rintro ⟨htautology, hcontradiction⟩
  exact Formula.not_constantly_both (hfalse.mp hcontradiction) (htrue.mp htautology)

/-- A disjunction with its own negation, over two columns for its variable and one for another. -/
theorem excluded_middle_over_further_columns :
    ∃ table forms,
      (TruthTable.enumerate (.binary .or (.var "A") (.neg (.var "A"))) ["B", "A", "A"]
        (3 : Int)).outcome = .ok table ∧
      table.canonicalForms.outcome = .ok forms ∧
      table.isTautology ∧ ¬ table.isContradiction ∧ forms.conjunctive.constant? = some true := by
  have hcovers : ∀ name ∈ (Formula.binary .or (.var "A") (.neg (.var "A"))).leaves,
      name ∈ ["B", "A", "A"] := by decide
  have hlimit : (["B", "A", "A"].length : Int) ≤ 3 := by decide
  have hconstantly : (Formula.binary .or (.var "A") (.neg (.var "A"))).Constantly true := by
    apply Formula.constantly_iff.mpr
    intro v
    exact Bool.or_not_self (v "A")
  obtain ⟨table, forms, htable, hforms, htautology, hconstant, -, -, hboth⟩ :=
    table_decides_validity hcovers hlimit
  have htrue := hconstant.mpr hconstantly
  have hall := htautology.mpr htrue
  exact ⟨table, forms, htable, hforms, hall, fun hfalse => hboth ⟨hall, hfalse⟩, htrue⟩

end Sentential
