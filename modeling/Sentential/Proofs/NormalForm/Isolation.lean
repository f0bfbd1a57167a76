/-
# Sentential.Proofs.NormalForm.Isolation -- every clause is about one row

Where each name has one column, the assignment of a row gives the row back, so that two rows with
the same assignment are the same row. A clause asks of an assignment whether it is that of the
clause's own row. So in a table with all rows the clause of a true row holds in that row and in no
other, and the clause of a false row fails in that row and in no other; clauses and rows stand in
one order, and the number of a clause tells its row.
-/
import Sentential.Proofs.NormalForm.Canonical
import Sentential.Proofs.TruthTable.Enumeration

namespace Sentential

/-! ## One row in another -/

/-- With one column for each name, a row has the values of its assignment. -/
theorem Assignment.map_value_ofValues {columns : List String} {values : List Bool}
    (hcolumns : columns.Nodup) (h : values.length = columns.length) :
    columns.map (ofValues columns values).value = values := by
  apply List.ext_getElem
  · rw [List.length_map, h]
  · intro i hi hvalue
    rw [List.length_map] at hi
    have hlast : IsLastColumn columns columns[i] i := by
      refine ⟨List.getElem?_eq_getElem hi, ?_⟩
      intro j hj hsame
      -- a later column of that name would be a second one
      obtain ⟨hlt, hget⟩ := List.getElem?_eq_some_iff.mp hsame
      have heq : j = i := hcolumns.getElem_inj_iff.mp hget
      omega
    rw [List.getElem_map, value, truth?, takesLast_ofValues h _ _ hlast,
      List.getElem?_eq_getElem hvalue]
    rfl

/-- Evaluated in any row, the clause of a row tells whether it is the same row. -/
theorem Row.evaluate_clause {columns : List String} {row other : Row} (kind : FormKind)
    (hcolumns : columns.Nodup) (h : row.values.length = columns.length)
    (hother : other.values.length = columns.length) :
    (row.clause columns kind).evaluate (.ofValues columns other.values) =
      .ok (decide (row.values = other.values) != kind.unit) := by
  have hbinds : ∀ name ∈ columns, (Assignment.ofValues columns other.values).Binds name := by
    intro name hname
    exact (Assignment.binds_ofValues hother).mpr hname
  rw [Clause.evaluate_eq, names_clause kind h, Assignment.reading_of_binds hbinds,
    meaning_clause kind h, Assignment.map_value_ofValues hcolumns hother]

/-! ## The clauses of a table -/

namespace TruthTable

/-- Every row has one of the two results. -/
theorem length_rowsWith (table : TruthTable) :
    (table.rowsWith true).length + (table.rowsWith false).length = table.rows.length := by
  rw [rowsWith, rowsWith, ← List.countP_eq_length_filter, ← List.countP_eq_length_filter,
    List.length_eq_countP_add_countP (p := Row.result)]
  simp

variable {f : Formula} {columns : List String}

/-- The values of a row fix its result. -/
theorem eq_of_values {row other : Row} (hrow : row ∈ (complete f columns).rows)
    (hother : other ∈ (complete f columns).rows) (h : row.values = other.values) : row = other := by
  have hresult := (mem_rows_complete.mp hrow).2
  rw [h, ← (mem_rows_complete.mp hother).2] at hresult
  obtain ⟨values, result⟩ := row
  obtain ⟨values', result'⟩ := other
  obtain rfl : values = values' := h
  obtain rfl : result = result' := hresult
  rfl

/-- A clause of a form, evaluated in a row of the table, has another value than the constant of the
kind exactly if the row is the one with the number of the clause. -/
theorem isolates_row (kind : FormKind) (hcolumns : columns.Nodup) {k : Nat} {c : Clause}
    (hc : ((complete f columns).form kind).clauses[k]? = some c) {row : Row}
    (hrow : row ∈ (complete f columns).rows) :
    ∃ value, c.evaluate ((complete f columns).assignment row) = .ok value ∧
      (value = !kind.unit ↔ ((complete f columns).rowsWith (!kind.unit))[k]? = some row) := by
  rw [clauses_form, List.getElem?_map] at hc
  obtain ⟨own, hown, rfl⟩ := Option.map_eq_some_iff.mp hc
  have hmem : own ∈ (complete f columns).rows :=
    List.mem_of_mem_filter (List.mem_of_getElem? hown)
  refine ⟨_, Row.evaluate_clause kind hcolumns (NormalForm.length_of_mem_complete hmem)
    (NormalForm.length_of_mem_complete hrow), ?_⟩
  calc
    (decide (own.values = row.values) != kind.unit) = !kind.unit ↔ own.values = row.values := by
      cases kind.unit <;> simp
    _ ↔ own = row := ⟨eq_of_values hmem hrow, congrArg Row.values⟩
    _ ↔ ((complete f columns).rowsWith (!kind.unit))[k]? = some row := by
      rw [hown, Option.some_inj]

end TruthTable

/-- With one column for each name, the disjunctive form has a clause for every true row, the
conjunctive form has one for every false row, and every clause has a literal for each column, in the
order of the columns. The clause with a number, evaluated in any row of the table, holds exactly in
the true row with that number; in the conjunctive form it fails exactly in the false row with that
number. -/
theorem clauses_isolate_their_rows {f : Formula} {columns : List String} {limit : Int}
    (hcovers : ∀ name ∈ f.leaves, name ∈ columns) (hcolumns : columns.Nodup)
    (hlimit : (columns.length : Int) ≤ limit) :
    ∃ table forms, (TruthTable.enumerate f columns limit).outcome = .ok table ∧
      table.canonicalForms.outcome = .ok forms ∧ table.rows.Nodup ∧
      forms.disjunctive.clauses.length = (table.rowsWith true).length ∧
      forms.conjunctive.clauses.length = (table.rowsWith false).length ∧
      forms.disjunctive.clauses.length + forms.conjunctive.clauses.length = 2 ^ columns.length ∧
      (∀ c ∈ forms.disjunctive.clauses ++ forms.conjunctive.clauses,
        c.literals.map Literal.name = columns) ∧
      (∀ (k : Nat) (c : Clause), forms.disjunctive.clauses[k]? = some c → ∀ row ∈ table.rows,
        ∃ value, c.evaluate (table.assignment row) = .ok value ∧
          (value = true ↔ (table.rowsWith true)[k]? = some row)) ∧
      ∀ (k : Nat) (c : Clause), forms.conjunctive.clauses[k]? = some c → ∀ row ∈ table.rows,
        ∃ value, c.evaluate (table.assignment row) = .ok value ∧
          (value = false ↔ (table.rowsWith false)[k]? = some row) := by
  let table := TruthTable.complete f columns
  have hlength : ∀ kind, (table.form kind).clauses.length =
      (table.rowsWith (!kind.unit)).length := by
    intro kind
    rw [table.clauses_form, List.length_map]
  have htrue := hlength .disjunctive
  have hfalse := hlength .conjunctive
  refine ⟨table, ⟨table.form .disjunctive, table.form .conjunctive⟩,
    TruthTable.enumerate_of_le hcovers hlimit, rfl, TruthTable.nodup_rows_complete f columns,
    htrue, hfalse, ?_, ?_, ?_, ?_⟩
  · rw [htrue, hfalse, ← TruthTable.length_rows_complete f columns]
    exact table.length_rowsWith
  · intro c hc
    have hrows : ∀ row ∈ table.rows, row.values.length = columns.length :=
      fun _ => NormalForm.length_of_mem_complete
    rcases List.mem_append.mp hc with hc | hc
    · exact NormalForm.DerivedFrom.names_of_mem (.inl rfl) hrows hc
    · exact NormalForm.DerivedFrom.names_of_mem (.inr rfl) hrows hc
  · intro k c hc row hrow
    exact TruthTable.isolates_row .disjunctive hcolumns hc hrow
  · intro k c hc row hrow
    exact TruthTable.isolates_row .conjunctive hcolumns hc hrow

/-- The only false row of an implication is the one in which the only clause of the conjunctive form
fails. -/
theorem false_row_of_implication_is_isolated :
    ∃ table forms,
      (TruthTable.enumerate (.binary .implies (.var "A") (.var "B")) ["A", "B"] (2 : Int)).outcome =
        .ok table ∧
      table.canonicalForms.outcome = .ok forms ∧
      forms.disjunctive.clauses.length + forms.conjunctive.clauses.length = 4 ∧
      ∃ c, forms.conjunctive.clauses[0]? = some c ∧
        c.evaluate (table.assignment ⟨[true, false], false⟩) = .ok false ∧
        c.evaluate (table.assignment ⟨[false, false], true⟩) = .ok true := by
  have hcovers : ∀ name ∈ (Formula.binary .implies (.var "A") (.var "B")).leaves,
      name ∈ ["A", "B"] := by decide
  have hlimit : (["A", "B"].length : Int) ≤ 2 := by decide
  obtain ⟨table, forms, htable, hforms, -, -, -, hall, -, -, hfails⟩ :=
    clauses_isolate_their_rows hcovers (by decide) hlimit
  obtain rfl := Except.ok.inj ((TruthTable.enumerate_of_le hcovers hlimit).symm.trans htable)
  obtain rfl := Except.ok.inj ((TruthTable.canonicalForms_outcome _).symm.trans hforms)
  refine ⟨_, _, htable, hforms, hall, _, rfl, ?_, ?_⟩
  · obtain ⟨value, hvalue, hown⟩ := hfails 0 _ rfl ⟨[true, false], false⟩ (by decide)
    rw [hvalue, hown.mpr (by decide)]
  · obtain ⟨value, hvalue, hown⟩ := hfails 0 _ rfl ⟨[false, false], true⟩ (by decide)
    rw [hvalue, Bool.eq_true_of_not_eq_false (mt hown.mp (by decide))]

end Sentential
