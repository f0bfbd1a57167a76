/-
# Sentential.Proofs.NormalForm.Canonical -- the two forms of a table mean what its formula means

Under given values a clause of a table answers one question: whether its row is the row of these
values. The clause that describes a row says yes to it, the clause that rules it out says no. With
several columns for one name a row may ask a name to have two values; no values are then those of
the row, so the first kind of clause never holds and the second always does. Every other row is the
row of some values, and its result is the meaning of the formula under them.
-/
import Sentential.NormalForm.Derivation
import Sentential.Proofs.Formula.Variables
import Sentential.Proofs.NormalForm.Meaning
import Sentential.Proofs.TruthTable.Rows

namespace Sentential

/-! ## Clauses of rows -/

namespace Row

theorem names_literals {columns : List String} {row : Row}
    (h : row.values.length = columns.length) (sign : Bool) :
    (row.literals columns sign).map Literal.name = columns := by
  obtain ⟨values, result⟩ := row
  rw [literals, List.map_zipWith]
  induction columns generalizing values with
  | nil => rfl
  | cons name columns ih =>
      cases values with
      | nil => exact absurd h (by simp)
      | cons value values =>
          rw [List.zipWith_cons_cons, ih values (Nat.succ.inj h)]

theorem literals_ne_nil {columns : List String} {row : Row} (hcolumns : columns ≠ [])
    (h : row.values.length = columns.length) (sign : Bool) : row.literals columns sign ≠ [] := by
  intro hnil
  have hnames := names_literals h sign
  rw [hnil] at hnames
  exact hcolumns hnames.symm

/-- The clause that describes a row holds exactly for the values of the row. -/
theorem meaning_minterm {columns : List String} {row : Row}
    (h : row.values.length = columns.length) (v : String → Bool) :
    (row.minterm columns).meaning v = decide (row.values = columns.map v) := by
  obtain ⟨values, result⟩ := row
  rw [minterm, Clause.meaning, if_pos rfl, literals]
  induction columns generalizing values with
  | nil =>
      obtain rfl : values = [] := List.length_eq_zero_iff.mp h
      rfl
  | cons name columns ih =>
      cases values with
      | nil => exact absurd h (by simp)
      | cons value values =>
          have hrest := ih values (Nat.succ.inj h)
          -- the literal of the first column holds exactly for the first value
          rw [List.zipWith_cons_cons, List.map_cons, List.all_cons, hrest, Literal.meaning]
          cases value <;> cases hv : v name <;> simp [hv]

/-- Ruling a row out is the dual of describing it. -/
theorem maxterm_eq_dual (columns : List String) (row : Row) :
    row.maxterm columns = (row.minterm columns).dual := by
  unfold maxterm minterm Clause.dual literals
  rw [List.map_zipWith]
  congr 2
  funext name value
  cases value <;> rfl

/-- The clause that rules a row out fails exactly for the values of the row. -/
theorem meaning_maxterm {columns : List String} {row : Row}
    (h : row.values.length = columns.length) (v : String → Bool) :
    (row.maxterm columns).meaning v = !decide (row.values = columns.map v) := by
  rw [maxterm_eq_dual, Clause.meaning_dual (.inl rfl), meaning_minterm h]

/-- The clause that the form of a kind has for a row. -/
def clause (columns : List String) (kind : FormKind) (row : Row) : Clause :=
  match kind with
  | .disjunctive => row.minterm columns
  | .conjunctive => row.maxterm columns

theorem names_clause {columns : List String} {row : Row} (kind : FormKind)
    (h : row.values.length = columns.length) :
    (row.clause columns kind).names = columns := by
  cases kind with
  | disjunctive => exact names_literals h false
  | conjunctive => exact names_literals h true

/-- The clause of a row has another value than a form without clauses exactly for the values of the
row. -/
theorem meaning_clause {columns : List String} {row : Row} (kind : FormKind)
    (h : row.values.length = columns.length) (v : String → Bool) :
    (row.clause columns kind).meaning v = (decide (row.values = columns.map v) != kind.unit) := by
  cases kind with
  | disjunctive =>
      rw [clause, meaning_minterm h]
      exact (Bool.bne_false _).symm
  | conjunctive =>
      rw [clause, meaning_maxterm h]
      exact (Bool.bne_true _).symm

end Row

/-! ## Forms of rows -/

namespace NormalForm

/-- The form is one of the two that rows have. -/
def DerivedFrom (form : NormalForm) (columns : List String) (rows : List Row) : Prop :=
  form = disjunctive columns rows ∨ form = conjunctive columns rows

section Rows

variable {columns : List String} {rows : List Row} {form : NormalForm}

/-- Every clause of a form of the table is the clause of a row. -/
theorem mem_clauses_disjunctive {c : Clause} :
    c ∈ (disjunctive columns rows).clauses ↔
      ∃ row ∈ rows, row.result = true ∧ row.minterm columns = c := by
  simp only [disjunctive, List.mem_map, List.mem_filter, and_assoc]

theorem mem_clauses_conjunctive {c : Clause} :
    c ∈ (conjunctive columns rows).clauses ↔
      ∃ row ∈ rows, row.result = false ∧ row.maxterm columns = c := by
  simp only [conjunctive, List.mem_map, List.mem_filter, and_assoc, Bool.not_eq_true']

/-- Every clause of either form has a literal for each column. -/
theorem DerivedFrom.names_of_mem (hform : form.DerivedFrom columns rows)
    (hrows : ∀ row ∈ rows, row.values.length = columns.length) {c : Clause}
    (hc : c ∈ form.clauses) : c.names = columns := by
  rcases hform with rfl | rfl
  · obtain ⟨row, hrow, -, rfl⟩ := mem_clauses_disjunctive.mp hc
    exact Row.names_literals (hrows row hrow) false
  · obtain ⟨row, hrow, -, rfl⟩ := mem_clauses_conjunctive.mp hc
    exact Row.names_literals (hrows row hrow) true

/-- A form that has clauses has the names of the columns. -/
theorem DerivedFrom.mem_names (hform : form.DerivedFrom columns rows)
    (hrows : ∀ row ∈ rows, row.values.length = columns.length) (hclauses : form.clauses ≠ [])
    {name : String} : name ∈ form.names ↔ name ∈ columns := by
  constructor
  · intro hname
    obtain ⟨c, hc, hname⟩ := List.mem_flatMap.mp hname
    exact hform.names_of_mem hrows hc ▸ hname
  · intro hname
    obtain ⟨c, hc⟩ := List.exists_mem_of_ne_nil _ hclauses
    exact List.mem_flatMap.mpr ⟨c, hc, (hform.names_of_mem hrows hc).symm ▸ hname⟩

theorem derivedFrom_of_mem (h : form ∈ [disjunctive columns rows, conjunctive columns rows]) :
    form.DerivedFrom columns rows := by
  rcases List.mem_cons.mp h with h | h
  · exact .inl h
  · exact .inr (List.mem_singleton.mp h)

/-- With a column at least, every clause has literals. -/
theorem DerivedFrom.proper (hform : form.DerivedFrom columns rows)
    (hrows : ∀ row ∈ rows, row.values.length = columns.length) (hcolumns : columns ≠ [])
    (hclauses : form.clauses ≠ []) : form.Proper := by
  refine ⟨hclauses, ?_⟩
  intro c hc
  rcases hform with rfl | rfl
  · obtain ⟨row, hrow, -, rfl⟩ := mem_clauses_disjunctive.mp hc
    exact ⟨Row.literals_ne_nil hcolumns (hrows row hrow) false, .inl rfl⟩
  · obtain ⟨row, hrow, -, rfl⟩ := mem_clauses_conjunctive.mp hc
    exact ⟨Row.literals_ne_nil hcolumns (hrows row hrow) true, .inr (.inl rfl)⟩

end Rows

/-! ## Forms of the complete table -/

section Complete

variable {f : Formula} {columns : List String}

theorem length_of_mem_complete {row : Row} (h : row ∈ (TruthTable.complete f columns).rows) :
    row.values.length = columns.length :=
  (TruthTable.mem_rows_complete.mp h).1

/-- The row of some values has the meaning of the formula under them as its result. -/
theorem result_of_mem_complete (hcovers : ∀ name ∈ f.leaves, name ∈ columns) {row : Row}
    (h : row ∈ (TruthTable.complete f columns).rows) {v : String → Bool}
    (hvalues : row.values = columns.map v) : row.result = f.meaning v := by
  rw [(TruthTable.mem_rows_complete.mp h).2, hvalues]
  exact Formula.meaning_congr fun name hname =>
    Assignment.value_ofValues_map (hcovers name hname)

/-- All values have a row. -/
theorem mem_complete (hcovers : ∀ name ∈ f.leaves, name ∈ columns) (v : String → Bool) :
    ⟨columns.map v, f.meaning v⟩ ∈ (TruthTable.complete f columns).rows := by
  refine TruthTable.mem_rows_complete.mpr ⟨List.length_map .., ?_⟩
  exact (Formula.meaning_congr fun name hname =>
    Assignment.value_ofValues_map (hcovers name hname)).symm

/-- The disjunctive form holds for the values of the true rows, and these are the values under
which the formula holds. -/
theorem meaning_disjunctive (hcovers : ∀ name ∈ f.leaves, name ∈ columns) (v : String → Bool) :
    (disjunctive columns (TruthTable.complete f columns).rows).meaning v = f.meaning v := by
  rw [Bool.eq_iff_iff]
  show (List.any _ id) = true ↔ _
  rw [List.any_map, List.any_eq_true]
  constructor
  · rintro ⟨c, hc, hholds⟩
    obtain ⟨row, hrow, hresult, rfl⟩ := mem_clauses_disjunctive.mp hc
    have hmeaning := Row.meaning_minterm (length_of_mem_complete hrow) v
    have hvalues : row.values = columns.map v :=
      of_decide_eq_true (hmeaning.symm.trans hholds)
    rw [← result_of_mem_complete hcovers hrow hvalues]
    exact hresult
  · intro hf
    refine ⟨_, mem_clauses_disjunctive.mpr ⟨_, mem_complete hcovers v, hf, rfl⟩, ?_⟩
    exact (Row.meaning_minterm (List.length_map ..) v).trans (decide_eq_true rfl)

/-- The conjunctive form fails for the values of the false rows, and these are the values under
which the formula fails. -/
theorem meaning_conjunctive (hcovers : ∀ name ∈ f.leaves, name ∈ columns) (v : String → Bool) :
    (conjunctive columns (TruthTable.complete f columns).rows).meaning v = f.meaning v := by
  rw [Bool.eq_iff_iff]
  show (List.all _ id) = true ↔ _
  rw [List.all_map, List.all_eq_true]
  constructor
  · intro hall
    cases hf : f.meaning v with
    | true => rfl
    | false =>
        -- the clause of the row of these values would fail
        have hc := hall _ (mem_clauses_conjunctive.mpr ⟨_, mem_complete hcovers v, hf, rfl⟩)
        have hmeaning : (Row.maxterm columns ⟨columns.map v, f.meaning v⟩).meaning v = !true := by
          rw [Row.meaning_maxterm (List.length_map ..), decide_eq_true rfl]
        exact absurd (hc.symm.trans hmeaning) (by decide)
  · intro hf c hc
    obtain ⟨row, hrow, hresult, rfl⟩ := mem_clauses_conjunctive.mp hc
    have hvalues : row.values ≠ columns.map v := by
      intro hvalues
      rw [result_of_mem_complete hcovers hrow hvalues, hf] at hresult
      exact absurd hresult (by decide)
    show (row.maxterm columns).meaning v = true
    rw [Row.meaning_maxterm (length_of_mem_complete hrow), decide_eq_false hvalues]
    rfl

/-- Both forms of the complete table mean what the formula means. -/
theorem DerivedFrom.meaning_eq {form : NormalForm}
    (hform : form.DerivedFrom columns (TruthTable.complete f columns).rows)
    (hcovers : ∀ name ∈ f.leaves, name ∈ columns) (v : String → Bool) :
    form.meaning v = f.meaning v := by
  rcases hform with rfl | rfl
  · exact meaning_disjunctive hcovers v
  · exact meaning_conjunctive hcovers v

/-- Both forms evaluate to the meaning of the formula, wherever the columns have values. -/
theorem DerivedFrom.evaluate_eq {α : Type} [Truth α] {a : Assignment α} {form : NormalForm}
    (hform : form.DerivedFrom columns (TruthTable.complete f columns).rows)
    (hcovers : ∀ name ∈ f.leaves, name ∈ columns) (hbinds : ∀ name ∈ columns, a.Binds name) :
    form.evaluate a = .ok (f.meaning a.value) := by
  have hnames : ∀ name ∈ form.names, a.Binds name := by
    intro name hname
    obtain ⟨c, hc, hname⟩ := List.mem_flatMap.mp hname
    rw [hform.names_of_mem (fun _ => length_of_mem_complete) hc] at hname
    exact hbinds name hname
  rw [form.evaluate_eq, Assignment.reading_of_binds hnames, hform.meaning_eq hcovers]

end Complete

end NormalForm

/-- The form of that kind that a table has. -/
def TruthTable.form (table : TruthTable) : FormKind → NormalForm
  | .disjunctive => .disjunctive table.columns table.rows
  | .conjunctive => .conjunctive table.columns table.rows

/-- The rows with that result, in the order of the table. -/
def TruthTable.rowsWith (table : TruthTable) (result : Bool) : List Row :=
  table.rows.filter fun row => row.result = result

/-- A form has the clauses of the rows with the other result than the constant of its kind. -/
theorem TruthTable.clauses_form (table : TruthTable) (kind : FormKind) :
    (table.form kind).clauses =
      (table.rowsWith (!kind.unit)).map (Row.clause table.columns kind) := by
  cases kind with
  | disjunctive => simp [form, NormalForm.disjunctive, rowsWith, FormKind.unit, Row.clause]
  | conjunctive => simp [form, NormalForm.conjunctive, rowsWith, FormKind.unit, Row.clause]

theorem TruthTable.canonicalForms_outcome (table : TruthTable) :
    table.canonicalForms.outcome =
      .ok ⟨.disjunctive table.columns table.rows, .conjunctive table.columns table.rows⟩ := rfl

/-! ## The forms and their formula -/

/-- A formula, both forms of its table and the trees of the forms all evaluate to the same, for any
columns that cover the formula and any values of the columns. -/
theorem canonical_forms_agree {f : Formula} {columns : List String} {limit : Int}
    (hcovers : ∀ name ∈ f.leaves, name ∈ columns) (hlimit : (columns.length : Int) ≤ limit) :
    ∃ table forms, (TruthTable.enumerate f columns limit).outcome = .ok table ∧
      table.canonicalForms.outcome = .ok forms ∧
      ∀ (α : Type) [Truth α] (a : Assignment α), (∀ name ∈ columns, a.Binds name) →
        ∃ value, f.evaluate a = .ok value ∧ forms.disjunctive.evaluate a = .ok value ∧
          forms.conjunctive.evaluate a = .ok value ∧
          ∀ form ∈ [forms.disjunctive, forms.conjunctive], ¬ form.isConstant →
            ∃ g, form.toFormula = .ok g ∧ g.evaluate a = .ok value := by
  have hcheck : Limit.check columns.length (TruthTable.excess columns.length) limit = .ok () :=
    Limit.check_eq_ok_iff.mpr ⟨limit, rfl, hlimit⟩
  refine ⟨.complete f columns, _, ?_, TruthTable.canonicalForms_outcome _, ?_⟩
  · rw [TruthTable.enumerate_of_covers hcovers, TruthTable.sizeCheck_none, hcheck]
    rfl
  · intro α _ a hbinds
    have hf : f.evaluate a = .ok (f.meaning a.value) := by
      apply Formula.evaluate_of_binds
      intro name hname
      exact hbinds name (hcovers name hname)
    have hevaluate : ∀ form : NormalForm,
        form.DerivedFrom columns (TruthTable.complete f columns).rows →
          form.evaluate a = .ok (f.meaning a.value) := by
      intro form hform
      exact hform.evaluate_eq hcovers hbinds
    refine ⟨f.meaning a.value, hf, hevaluate _ (.inl rfl), hevaluate _ (.inr rfl), ?_⟩
    intro form hmem hconstant
    have hform := NormalForm.derivedFrom_of_mem hmem
    have hcolumns : columns ≠ [] := by
      obtain ⟨name, hname⟩ := List.exists_mem_of_ne_nil _ f.leaves_ne_nil
      exact List.ne_nil_of_mem (hcovers name hname)
    have hproper : form.Proper := by
      refine hform.proper (fun _ => NormalForm.length_of_mem_complete) hcolumns ?_
      intro hnil
      exact hconstant (List.isEmpty_iff.mpr hnil)
    refine ⟨form.tree, hproper.toFormula_eq_tree, ?_⟩
    rw [hproper.evaluate_tree, hevaluate form hform]

/-- An implication over two columns for one of its names: where it fails, so do both forms and the
tree of the conjunctive form. -/
theorem implication_over_repeated_column :
    ∃ table forms,
      (TruthTable.enumerate (.binary .implies (.var "A") (.var "B")) ["B", "A", "B"]
        (3 : Int)).outcome = .ok table ∧
      table.canonicalForms.outcome = .ok forms ∧
      forms.disjunctive.evaluate ⟨[("A", Datum.text "yes"), ("B", .null)]⟩ = .ok false ∧
      forms.conjunctive.evaluate ⟨[("A", Datum.text "yes"), ("B", .null)]⟩ = .ok false ∧
      ∃ g, forms.conjunctive.toFormula = .ok g ∧
        g.evaluate ⟨[("A", Datum.text "yes"), ("B", .null)]⟩ = .ok false := by
  have hcovers : ∀ name ∈ (Formula.binary .implies (.var "A") (.var "B")).leaves,
      name ∈ ["B", "A", "B"] := by decide
  have hlimit : (["B", "A", "B"].length : Int) ≤ 3 := by decide
  obtain ⟨table, forms, htable, hforms, hagree⟩ := canonical_forms_agree hcovers hlimit
  obtain ⟨value, hf, hdisjunctive, hconjunctive, htrees⟩ :=
    hagree Datum ⟨[("A", .text "yes"), ("B", .null)]⟩ (by decide)
  obtain rfl : value = false := by
    rw [Formula.evaluate_eq_onTree] at hf
    exact (Except.ok.inj hf).symm
  have hkind : forms.conjunctive.kind = .conjunctive := by
    have hderived := Except.ok.inj ((TruthTable.canonicalForms_outcome table).symm.trans hforms)
    exact hderived ▸ rfl
  refine ⟨table, forms, htable, hforms, hdisjunctive, hconjunctive, ?_⟩
  refine htrees forms.conjunctive (by simp) ?_
  intro hconstant
  -- an empty conjunction would hold
  rw [NormalForm.evaluate, List.isEmpty_iff.mp hconstant, hkind] at hconjunctive
  exact absurd (Except.ok.inj hconjunctive) (by decide)

end Sentential
