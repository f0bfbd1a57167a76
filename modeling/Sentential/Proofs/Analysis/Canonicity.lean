/-
# Sentential.Proofs.Analysis.Canonicity -- the canonical forms tell formulas apart

Two formulas have the same function if they have the same variables and the same value wherever the
variables have values. The table of a formula says no more and no less than this. Either canonical
form says so too as long as it has a clause: the clause names every variable, and the form has the
meaning of the formula. A form without clauses forgets the variables and says only that the formula
is constant. No formula is constant in both ways, so the two forms together never forget anything.
-/
import Sentential.Proofs.Analysis.FixedPoint

namespace Sentential

/-- Any values are those of some assignment to finitely many names. -/
theorem Assignment.exists_of_values (names : List String) (v : String → Bool) :
    ∃ a : Assignment Bool, ∀ name ∈ names, a.Binds name ∧ a.value name = v name := by
  refine ⟨ofValues names (names.map v), ?_⟩
  intro name hname
  exact ⟨(binds_ofValues (List.length_map ..)).mpr hname, value_ofValues_map hname⟩

namespace TruthTable

variable (table : TruthTable) (kind : FormKind)

theorem clauses_form_eq_nil_iff :
    (table.form kind).clauses = [] ↔ ∀ row ∈ table.rows, row.result = kind.unit := by
  rw [clauses_form, List.map_eq_nil_iff, rowsWith, List.filter_eq_nil_iff]
  simp

theorem constant?_form_iff :
    (table.form kind).constant? = some kind.unit ↔ (table.form kind).clauses = [] := by
  cases kind <;> simp [NormalForm.constant?, NormalForm.isConstant, form, NormalForm.disjunctive,
    NormalForm.conjunctive]

end TruthTable

namespace Formula

variable {f g : Formula}

/-! ## Equal functions and constant ones -/

/-- The two formulas have the same variables, and the same value wherever these have values. -/
def SameFunction (f g : Formula) : Prop :=
  (∀ name, name ∈ f.leaves ↔ name ∈ g.leaves) ∧
    ∀ (α : Type) [Truth α] (a : Assignment α), (∀ name ∈ f.leaves, a.Binds name) →
      f.evaluate a = g.evaluate a

/-- The formula has that value wherever its variables have values: it is a tautology or a
contradiction. -/
def Constantly (value : Bool) (f : Formula) : Prop :=
  ∀ (α : Type) [Truth α] (a : Assignment α), (∀ name ∈ f.leaves, a.Binds name) →
    f.evaluate a = .ok value

theorem evaluate_of_values {α : Type} [Truth α] {a : Assignment α} {v : String → Bool}
    (h : ∀ name ∈ f.leaves, a.Binds name ∧ a.value name = v name) :
    f.evaluate a = .ok (f.meaning v) := by
  rw [evaluate_of_binds fun name hname => (h name hname).1,
    meaning_congr fun name hname => (h name hname).2]

theorem constantly_iff {value : Bool} : f.Constantly value ↔ ∀ v, f.meaning v = value := by
  constructor
  · intro h v
    obtain ⟨a, ha⟩ := Assignment.exists_of_values f.leaves v
    have hvalue := h Bool a fun name hname => (ha name hname).1
    exact Except.ok.inj ((evaluate_of_values ha).symm.trans hvalue)
  · intro h α _ a hbinds
    rw [evaluate_of_binds hbinds, h]

theorem sameFunction_iff :
    f.SameFunction g ↔ f.vars = g.vars ∧ ∀ v, f.meaning v = g.meaning v := by
  constructor
  · rintro ⟨hnames, hvalues⟩
    refine ⟨?_, ?_⟩
    · apply eq_of_ascending f.vars_ascending g.vars_ascending
      intro name
      rw [mem_vars, mem_vars]
      exact hnames name
    · intro v
      obtain ⟨a, ha⟩ := Assignment.exists_of_values f.leaves v
      have hf : f.evaluate a = .ok (f.meaning v) := evaluate_of_values ha
      have hg : g.evaluate a = .ok (g.meaning v) :=
        evaluate_of_values fun name hname => ha name ((hnames name).mpr hname)
      have hsame := hvalues Bool a fun name hname => (ha name hname).1
      exact Except.ok.inj (hf.symm.trans (hsame.trans hg))
  · rintro ⟨hvars, hmeaning⟩
    have hnames : ∀ name, name ∈ f.leaves ↔ name ∈ g.leaves := by
      intro name
      rw [← mem_vars, ← mem_vars, hvars]
    refine ⟨hnames, ?_⟩
    intro α _ a hbinds
    have hboth : ∀ name ∈ g.leaves, a.Binds name := by
      intro name hname
      exact hbinds name ((hnames name).mpr hname)
    rw [evaluate_of_binds hbinds, evaluate_of_binds hboth, hmeaning]

/-! ## Tables -/

/-- All rows have one result exactly if the formula is constant, since all values have a row. -/
theorem forall_result_iff {columns : List String} (hcovers : ∀ name ∈ f.leaves, name ∈ columns)
    {value : Bool} :
    (∀ row ∈ (TruthTable.complete f columns).rows, row.result = value) ↔ f.Constantly value := by
  rw [constantly_iff]
  constructor
  · intro h v
    exact h _ (NormalForm.mem_complete hcovers v)
  · intro h row hrow
    rw [(TruthTable.mem_rows_complete.mp hrow).2, h]

/-- The table over the variables of the formula. -/
def table (f : Formula) : TruthTable := .complete f f.vars

/-- A table has every value of the formula in it, and nothing else that depends on the formula but
the variables. -/
theorem table_eq_iff : f.table = g.table ↔ f.SameFunction g := by
  rw [sameFunction_iff]
  constructor
  · intro h
    have hvars : f.vars = g.vars := congrArg TruthTable.columns h
    refine ⟨hvars, ?_⟩
    intro v
    -- the row of these values has the meaning of either formula as its result
    have hrow : ⟨f.vars.map v, f.meaning v⟩ ∈ f.table.rows :=
      NormalForm.mem_complete (fun _ => mem_vars.mpr) v
    rw [h] at hrow
    exact NormalForm.result_of_mem_complete (fun _ => mem_vars.mpr) hrow (by rw [hvars])
  · rintro ⟨hvars, hmeaning⟩
    rw [table, table, hvars]
    exact TruthTable.complete_congr hmeaning g.vars

/-! ## Forms -/

/-- The canonical form of a kind. -/
def canonicalForm (kind : FormKind) (f : Formula) : NormalForm := f.table.form kind

theorem isCanonicalForm (kind : FormKind) (f : Formula) :
    f.IsCanonicalForm (f.canonicalForm kind) := by
  cases kind with
  | disjunctive => exact .inl rfl
  | conjunctive => exact .inr rfl

/-- A form that two formulas share means what both of them mean. -/
theorem IsCanonicalForm.meaning_eq {form : NormalForm} (hf : f.IsCanonicalForm form)
    (hg : g.IsCanonicalForm form) (v : String → Bool) : f.meaning v = g.meaning v := by
  calc
    f.meaning v = form.meaning v :=
      (NormalForm.DerivedFrom.meaning_eq hf (fun _ => mem_vars.mpr) v).symm
    _ = g.meaning v := NormalForm.DerivedFrom.meaning_eq hg (fun _ => mem_vars.mpr) v

/-- A clause that two formulas share names the variables of both. -/
theorem IsCanonicalForm.sameFunction {form : NormalForm} (hf : f.IsCanonicalForm form)
    (hg : g.IsCanonicalForm form) (hclauses : form.clauses ≠ []) : f.SameFunction g := by
  rw [sameFunction_iff]
  refine ⟨?_, hf.meaning_eq hg⟩
  rw [← hf.vars_tree hclauses, hg.vars_tree hclauses]

/-- A canonical form without clauses is the constant of its kind. -/
theorem canonicalForm_of_nil {kind : FormKind} (h : (f.canonicalForm kind).clauses = []) :
    f.canonicalForm kind = ⟨kind, []⟩ := by
  cases kind with
  | disjunctive =>
      show NormalForm.mk .disjunctive (f.canonicalForm .disjunctive).clauses = _
      rw [h]
  | conjunctive =>
      show NormalForm.mk .conjunctive (f.canonicalForm .conjunctive).clauses = _
      rw [h]

/-- A canonical form has no clauses exactly if the formula is the constant that such a form stands
for. -/
theorem clauses_canonicalForm_eq_nil_iff {kind : FormKind} :
    (f.canonicalForm kind).clauses = [] ↔ f.Constantly kind.unit :=
  (f.table.clauses_form_eq_nil_iff kind).trans (forall_result_iff fun _ => mem_vars.mpr)

/-- Two formulas share a canonical form if they share the table, and otherwise only if both are the
constant that a form without clauses stands for. -/
theorem canonicalForm_eq_iff (kind : FormKind) :
    f.canonicalForm kind = g.canonicalForm kind ↔
      f.table = g.table ∨ f.Constantly kind.unit ∧ g.Constantly kind.unit := by
  constructor
  · intro h
    by_cases hclauses : (f.canonicalForm kind).clauses = []
    · have hclauses' : (g.canonicalForm kind).clauses = [] := h ▸ hclauses
      exact .inr ⟨clauses_canonicalForm_eq_nil_iff.mp hclauses,
        clauses_canonicalForm_eq_nil_iff.mp hclauses'⟩
    · have hg : g.IsCanonicalForm (f.canonicalForm kind) := h ▸ isCanonicalForm kind g
      exact .inl (table_eq_iff.mpr ((isCanonicalForm kind f).sameFunction hg hclauses))
  · rintro (htable | ⟨hf, hg⟩)
    · rw [canonicalForm, canonicalForm, htable]
    · rw [canonicalForm_of_nil (clauses_canonicalForm_eq_nil_iff.mpr hf),
        canonicalForm_of_nil (clauses_canonicalForm_eq_nil_iff.mpr hg)]

/-- No formula is constant in both ways. -/
theorem not_constantly_both (h : f.Constantly false) : ¬ f.Constantly true := by
  intro htrue
  have hmeaning := constantly_iff.mp h fun _ => false
  rw [constantly_iff.mp htrue] at hmeaning
  exact absurd hmeaning (by decide)

/-- Two formulas share both canonical forms exactly if they share the table. -/
theorem canonicalForms_eq_iff :
    (f.canonicalForm .disjunctive = g.canonicalForm .disjunctive ∧
      f.canonicalForm .conjunctive = g.canonicalForm .conjunctive) ↔ f.table = g.table := by
  rw [canonicalForm_eq_iff, canonicalForm_eq_iff]
  constructor
  · rintro ⟨htable | ⟨hfalse, -⟩, htable' | ⟨htrue, -⟩⟩
    · exact htable
    · exact htable
    · exact htable'
    · exact absurd htrue (not_constantly_both hfalse)
  · intro htable
    exact ⟨.inl htable, .inl htable⟩

end Formula

/-! ## Two analyses -/

namespace Analysis

/-- Two analyses have the same forms exactly if they have the same table, and the same table exactly
if their formulas have the same function. One of the forms alone is the same also for two
contradictions, or for two tautologies, whatever their variables are. -/
theorem canonical_forms_tell_formulas_apart {source₁ source₂ : Source}
    {maxVariables₁ maxVariables₂ maxDepth₁ maxDepth₂ : Limit} {r₁ r₂ : Analysis}
    (h₁ : (run source₁ maxVariables₁ maxDepth₁).outcome = .ok r₁)
    (h₂ : (run source₂ maxVariables₂ maxDepth₂).outcome = .ok r₂) :
    (r₁.dnf = r₂.dnf ∧ r₁.cnf = r₂.cnf ↔ r₁.table = r₂.table) ∧
    (r₁.table = r₂.table ↔ r₁.formula.SameFunction r₂.formula) ∧
    (r₁.dnf = r₂.dnf ↔
      r₁.table = r₂.table ∨ r₁.formula.Constantly false ∧ r₂.formula.Constantly false) ∧
    (r₁.cnf = r₂.cnf ↔
      r₁.table = r₂.table ∨ r₁.formula.Constantly true ∧ r₂.formula.Constantly true) := by
  obtain ⟨f, -, -, rfl⟩ := run_eq_ok_iff.mp h₁
  obtain ⟨g, -, -, rfl⟩ := run_eq_ok_iff.mp h₂
  -- what an analysis holds are the table and the two canonical forms of its formula
  exact ⟨Formula.canonicalForms_eq_iff, Formula.table_eq_iff,
    Formula.canonicalForm_eq_iff .disjunctive, Formula.canonicalForm_eq_iff .conjunctive⟩

/-- Two contradictions in different variables have the same disjunctive form, and are told apart by
their conjunctive forms. -/
theorem contradictions_share_one_form :
    ∃ r₁ r₂, (run (some "A & ~A") (16 : Int) (200 : Int)).outcome = .ok r₁ ∧
      (run (some "~(B | ~B)") (16 : Int) (200 : Int)).outcome = .ok r₂ ∧
      r₁.dnf = r₂.dnf ∧ r₁.cnf ≠ r₂.cnf := by
  let f : Formula := .binary .and (.var "A") (.neg (.var "A"))
  let g : Formula := .neg (.binary .or (.var "B") (.neg (.var "B")))
  have h₁ : (run (some "A & ~A") (16 : Int) (200 : Int)).outcome =
      .ok (complete (some "A & ~A") f) := by
    refine run_eq_ok_iff.mpr ⟨f, rfl, ?_, rfl⟩
    rw [f.length_vars]
    rfl
  have h₂ : (run (some "~(B | ~B)") (16 : Int) (200 : Int)).outcome =
      .ok (complete (some "~(B | ~B)") g) := by
    refine run_eq_ok_iff.mpr ⟨g, rfl, ?_, rfl⟩
    rw [g.length_vars]
    rfl
  obtain ⟨hforms, htables, hdnf, -⟩ := canonical_forms_tell_formulas_apart h₁ h₂
  have hf : f.Constantly false := by
    apply Formula.constantly_iff.mpr
    intro v
    exact Bool.and_not_self (v "A")
  have hg : g.Constantly false := by
    apply Formula.constantly_iff.mpr
    intro v
    show (!(v "B" || !v "B")) = false
    rw [Bool.or_not_self]
    rfl
  have hshared := hdnf.mpr (.inr ⟨hf, hg⟩)
  refine ⟨_, _, h₁, h₂, hshared, ?_⟩
  intro hcnf
  have hsame := htables.mp (hforms.mp ⟨hshared, hcnf⟩)
  exact absurd ((hsame.1 "A").mp (List.mem_cons_self ..)) (by decide)

end Analysis

end Sentential
