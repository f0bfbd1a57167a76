/-
# Sentential.Proofs.NormalForm.Duality -- the conjunctive form mirrors the disjunctive one

The clause that rules a row out is the dual of the clause that describes it: the same names in the
same order, every sign turned round, disjunction in place of conjunction. So the conjunctive form of
some rows is the dual of the disjunctive form of these rows with negated results, one clause for
another. Nothing is asked of the rows here; they may be too short or too long for the columns, or
contradict each other. Dual forms read the same names, so they miss the same one first, and where
none is missing they come to opposite values, an empty form and an empty clause included.

The table of a negation is the table of its operand with negated results. Its disjunctive form
therefore mirrors the conjunctive form of the operand, and its conjunctive form the disjunctive one.
-/
import Sentential.Proofs.NormalForm.Canonical
import Sentential.Proofs.TruthTable.Enumeration

namespace Sentential

/-! ## Dual forms -/

@[simp]
theorem Literal.flip_flip (l : Literal) : l.flip.flip = l := by
  unfold flip
  rw [Bool.not_not]

@[simp]
theorem Connective.dual_dual (op : Connective) : op.dual.dual = op := by
  cases op <;> rfl

@[simp]
theorem FormKind.dual_dual (kind : FormKind) : kind.dual.dual = kind := by
  cases kind <;> rfl

@[simp]
theorem Clause.dual_dual (c : Clause) : c.dual.dual = c := by
  simp [dual, Function.comp_def]

@[simp]
theorem Clause.names_dual (c : Clause) : c.dual.names = c.names := by
  rw [names, dual, List.map_map]
  rfl

namespace NormalForm

@[simp]
theorem dual_dual (form : NormalForm) : form.dual.dual = form := by
  simp [dual, Function.comp_def]

@[simp]
theorem names_dual (form : NormalForm) : form.dual.names = form.names := by
  rw [names, dual, List.flatMap_map]
  simp only [Clause.names_dual]
  rfl

/-- Every clause is a conjunction or a disjunction, however many literals it has. -/
def IsJunction (form : NormalForm) : Prop :=
  ∀ c ∈ form.clauses, c.connective = .and ∨ c.connective = .or

/-- The dual of a form means the opposite. -/
theorem meaning_dual {form : NormalForm} (h : form.IsJunction) (v : String → Bool) :
    form.dual.meaning v = !form.meaning v := by
  obtain ⟨kind, clauses⟩ := form
  have hclauses : (clauses.map Clause.dual).map (Clause.meaning v) =
      (clauses.map (Clause.meaning v)).map (!·) := by
    rw [List.map_map, List.map_map]
    exact List.map_congr_left fun c hc => Clause.meaning_dual (h c hc) v
  cases kind with
  | disjunctive =>
      show ((clauses.map Clause.dual).map (Clause.meaning v)).all id =
        !(clauses.map (Clause.meaning v)).any id
      rw [hclauses, all_map_not]
  | conjunctive =>
      show ((clauses.map Clause.dual).map (Clause.meaning v)).any id =
        !(clauses.map (Clause.meaning v)).all id
      rw [hclauses, any_map_not]

/-- The form is the dual of `other`, and wherever every name has a value it evaluates to the other
truth value; otherwise both fail for the first name without one. -/
structure Mirrors (form other : NormalForm) : Prop where
  eq_dual : form = other.dual
  evaluate : ∀ (α : Type) [Truth α] (a : Assignment α),
    (∃ value, (∀ name ∈ other.names, a.Binds name) ∧
      other.evaluate a = .ok value ∧ form.evaluate a = .ok (!value)) ∨
    ∃ name, a.FirstMissing other.names name ∧
      other.evaluate a = .error (.unboundVariable name) ∧
      form.evaluate a = .error (.unboundVariable name)

theorem Mirrors.symm {form other : NormalForm} (h : form.Mirrors other) : other.Mirrors form := by
  have hdual : other = form.dual := by rw [h.eq_dual, dual_dual]
  have hnames : form.names = other.names := by rw [h.eq_dual, names_dual]
  refine ⟨hdual, ?_⟩
  intro α _ a
  rw [hnames]
  rcases h.evaluate α a with ⟨value, hbinds, hother, hform⟩ | ⟨name, hmissing, hother, hform⟩
  · exact .inl ⟨!value, hbinds, hform, by rw [hother, Bool.not_not]⟩
  · exact .inr ⟨name, hmissing, hform, hother⟩

theorem IsJunction.dual_mirrors {form : NormalForm} (h : form.IsJunction) :
    form.dual.Mirrors form := by
  refine ⟨rfl, ?_⟩
  intro α _ a
  rw [form.evaluate_eq, form.dual.evaluate_eq, names_dual, meaning_dual h]
  rcases a.binds_or_firstMissing form.names with hbinds | ⟨name, hmissing⟩
  · exact .inl ⟨_, hbinds, Assignment.reading_of_binds hbinds _,
      Assignment.reading_of_binds hbinds _⟩
  · exact .inr ⟨name, hmissing, Assignment.reading_of_firstMissing hmissing _,
      Assignment.reading_of_firstMissing hmissing _⟩

end NormalForm

/-! ## Rows with negated results -/

/-- The row with the other result. -/
def Row.negated (row : Row) : Row := ⟨row.values, !row.result⟩

@[simp]
theorem Row.negated_negated (row : Row) : row.negated.negated = row := by
  unfold negated
  rw [Bool.not_not]

@[simp]
theorem Row.map_negated_negated (rows : List Row) : (rows.map negated).map negated = rows := by
  simp [Function.comp_def]

namespace NormalForm

theorem connective_of_mem_disjunctive {columns : List String} {rows : List Row} {c : Clause}
    (hc : c ∈ (disjunctive columns rows).clauses) : c.connective = .and := by
  obtain ⟨row, -, -, rfl⟩ := mem_clauses_disjunctive.mp hc
  rfl

theorem isJunction_disjunctive (columns : List String) (rows : List Row) :
    (disjunctive columns rows).IsJunction := by
  intro c hc
  exact .inl (connective_of_mem_disjunctive hc)

/-- The rows that are false are those that are true once the results are negated. -/
theorem conjunctive_eq_dual (columns : List String) (rows : List Row) :
    conjunctive columns rows = (disjunctive columns (rows.map Row.negated)).dual := by
  have hclauses : (rows.filter fun row => !row.result).map (Row.maxterm columns) =
      (((rows.map Row.negated).filter Row.result).map (Row.minterm columns)).map Clause.dual := by
    rw [List.filter_map, List.map_map, List.map_map]
    exact List.map_congr_left fun row _ => row.maxterm_eq_dual columns
  rw [conjunctive, disjunctive, hclauses]
  rfl

/-- The conjunctive form of any rows mirrors the disjunctive form of the negated ones. -/
theorem conjunctive_mirrors (columns : List String) (rows : List Row) :
    (conjunctive columns rows).Mirrors (disjunctive columns (rows.map Row.negated)) := by
  rw [conjunctive_eq_dual]
  exact (isJunction_disjunctive columns (rows.map Row.negated)).dual_mirrors

end NormalForm

/-! ## The table of a negation -/

namespace TruthTable

/-- The table with every result negated. -/
def negated (table : TruthTable) : TruthTable := ⟨table.columns, table.rows.map Row.negated⟩

theorem complete_neg (f : Formula) (columns : List String) :
    complete (.neg f) columns = (complete f columns).negated := by
  rw [complete, complete, negated, List.map_map]
  rfl

/-- A formula and its negation have tables over the same columns, within the same limits, and where
they have none it is for the same fault. -/
theorem enumerate_neg (f : Formula) (columns : List String) (limit : Int) :
    (enumerate (.neg f) columns limit).outcome =
      (enumerate f columns limit).outcome.map negated := by
  -- both questions that decide an enumeration are about the leaves and the columns only
  rw [enumerate_outcome, enumerate_outcome, complete_neg, Formula.leaves]
  split
  · rfl
  · split <;> rfl

end TruthTable

/-- The conjunctive form of any rows mirrors the disjunctive form of the rows with negated results,
whose clauses are conjunctions. In particular the table of a negation is that of its operand with
negated results, and each of its forms mirrors the form of the other kind that the operand has. -/
theorem canonical_forms_mirror_each_other (columns : List String) :
    (∀ rows : List Row,
      (∀ c ∈ (NormalForm.disjunctive columns (rows.map Row.negated)).clauses,
        c.connective = .and) ∧
      (NormalForm.conjunctive columns rows).Mirrors (.disjunctive columns (rows.map Row.negated))) ∧
    ∀ f : Formula, (Formula.neg f).vars = f.vars ∧ ∀ limit : Int,
      (TruthTable.enumerate (.neg f) columns limit).outcome =
        (TruthTable.enumerate f columns limit).outcome.map TruthTable.negated ∧
      ((∀ name ∈ f.leaves, name ∈ columns) → columns.length ≤ limit →
        ∃ table forms negatedTable negatedForms,
          (TruthTable.enumerate f columns limit).outcome = .ok table ∧
          table.canonicalForms.outcome = .ok forms ∧
          (TruthTable.enumerate (.neg f) columns limit).outcome = .ok negatedTable ∧
          negatedTable.canonicalForms.outcome = .ok negatedForms ∧
          negatedForms.disjunctive.Mirrors forms.conjunctive ∧
          negatedForms.conjunctive.Mirrors forms.disjunctive) := by
  refine ⟨?_, ?_⟩
  · intro rows
    exact ⟨fun _ => NormalForm.connective_of_mem_disjunctive,
      NormalForm.conjunctive_mirrors columns rows⟩
  · intro f
    refine ⟨by rw [Formula.vars_eq, Formula.vars_eq, Formula.leaves], ?_⟩
    intro limit
    refine ⟨TruthTable.enumerate_neg f columns limit, ?_⟩
    intro hcovers hlimit
    let table := TruthTable.complete f columns
    have htable : (TruthTable.enumerate f columns limit).outcome = .ok table :=
      TruthTable.enumerate_of_le hcovers hlimit
    have hnegated : (TruthTable.enumerate (.neg f) columns limit).outcome = .ok table.negated := by
      rw [TruthTable.enumerate_neg, htable]
      rfl
    have hdisjunctive := (NormalForm.conjunctive_mirrors columns table.rows).symm
    -- negated a second time the rows are those of the operand again
    have hconjunctive := NormalForm.conjunctive_mirrors columns (table.rows.map Row.negated)
    rw [Row.map_negated_negated] at hconjunctive
    exact ⟨table, _, table.negated, _, htable, TruthTable.canonicalForms_outcome table, hnegated,
      TruthTable.canonicalForms_outcome table.negated, hdisjunctive, hconjunctive⟩

/-- Over two columns for `A` the rows may be too short or too long: both forms miss `B`, although
the clause without literals alone decides them. An implication and its negation mirror each other
over the same columns. -/
theorem ragged_rows_are_mirrored :
    let columns := ["A", "B", "A"]
    let rows : List Row := [⟨[], false⟩, ⟨[true], false⟩, ⟨[true, false, true, true], true⟩,
      ⟨[false, true, true], false⟩]
    let f : Formula := .binary .implies (.var "A") (.var "B")
    (NormalForm.conjunctive columns rows).clauses = [⟨[], .or⟩, ⟨[⟨"A", true⟩], .or⟩,
      ⟨[⟨"A", false⟩, ⟨"B", true⟩, ⟨"A", true⟩], .or⟩] ∧
    (NormalForm.conjunctive columns rows).evaluate (⟨[("A", true)]⟩ : Assignment Bool) =
      .error (.unboundVariable "B") ∧
    (NormalForm.disjunctive columns (rows.map Row.negated)).evaluate
      (⟨[("A", true)]⟩ : Assignment Bool) = .error (.unboundVariable "B") ∧
    ∃ table forms negatedTable negatedForms,
      (TruthTable.enumerate f columns (3 : Int)).outcome = .ok table ∧
      table.canonicalForms.outcome = .ok forms ∧
      (TruthTable.enumerate (.neg f) columns (3 : Int)).outcome = .ok negatedTable ∧
      negatedTable.canonicalForms.outcome = .ok negatedForms ∧
      negatedForms.disjunctive = forms.conjunctive.dual := by
  intro columns rows f
  obtain ⟨hrows, htables⟩ := canonical_forms_mirror_each_other columns
  have hmissed : (NormalForm.disjunctive columns (rows.map Row.negated)).evaluate
      (⟨[("A", true)]⟩ : Assignment Bool) = .error (.unboundVariable "B") := rfl
  refine ⟨rfl, ?_, hmissed, ?_⟩
  · rcases (hrows rows).2.evaluate Bool ⟨[("A", true)]⟩ with
      ⟨value, -, hother, -⟩ | ⟨name, -, hother, hform⟩
    · exact absurd (hmissed.symm.trans hother) (by simp)
    · obtain rfl : "B" = name := by simpa using hmissed.symm.trans hother
      exact hform
  · obtain ⟨table, forms, negatedTable, negatedForms, htable, hforms, hnegated, hnegatedForms,
      hdisjunctive, -⟩ := ((htables f).2 3).2 (by decide) (by decide)
    exact ⟨table, forms, negatedTable, negatedForms, htable, hforms, hnegated, hnegatedForms,
      hdisjunctive.eq_dual⟩

end Sentential
