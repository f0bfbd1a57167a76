/-
# Sentential.Proofs.TruthTable.Enumeration -- which tables are made, and how they are ordered

Rows of one width compare, first column first and false below true, as the numbers that their
digits spell. A counter that goes down therefore passes through all rows of its width, each of them
once and each below the one before. Whether there is a table at all is decided by two questions and
in this order: are there more columns than allowed, and has every name at a leaf a column. The names
are asked in the order of the leaves, so that the first one without a column is the one reported.
-/
import Mathlib.Algebra.Order.Ring.Int
import Mathlib.Data.List.Find
import Mathlib.Data.List.Nodup
import Mathlib.Tactic.Ring
import Sentential.Proofs.TruthTable.Rows

namespace Sentential

/-! ## Rows as numbers -/

/-- The last digits of a number spell what is left of it below the power of two. -/
theorem valueOfDigits_rowValues (index : Int) (width : Nat) :
    (valueOfDigits (rowValues index width) : Int) = index % 2 ^ width := by
  induction width with
  | zero => exact (Int.emod_one index).symm
  | succ width ih =>
      have hdigit : ((decide (index / 2 ^ width % 2 = 1)).toNat : Int) = index / 2 ^ width % 2 := by
        rcases Int.emod_two_eq (index / 2 ^ width) with h | h <;> simp [h]
      have hpower : (0 : Int) ≤ 2 ^ width := Int.pow_nonneg (by decide)
      rw [rowValues_succ, valueOfDigits_cons, length_rowValues]
      push_cast
      rw [hdigit, ih, Int.pow_succ, Int.emod_def index (2 ^ width * 2),
        ← Int.ediv_ediv_of_nonneg hpower, Int.emod_def (index / 2 ^ width), Int.emod_def index]
      ring

/-- Rows of one width compare as the numbers that they spell. -/
theorem valueOfDigits_lt_iff {us vs : List Bool} (h : us.length = vs.length) :
    valueOfDigits us < valueOfDigits vs ↔ us < vs := by
  induction us generalizing vs with
  | nil =>
      obtain rfl : vs = [] := List.length_eq_zero_iff.mp h.symm
      simp
  | cons u us ih =>
      cases vs with
      | nil => exact absurd h (by simp)
      | cons v vs =>
          have hrest : us.length = vs.length := Nat.succ.inj h
          have hus := valueOfDigits_lt us
          have hvs := valueOfDigits_lt vs
          have hfirst : u < v ↔ u = false ∧ v = true := by cases u <;> cases v <;> decide
          rw [hrest] at hus
          rw [List.cons_lt_cons_iff, ← ih hrest, hfirst, valueOfDigits_cons, valueOfDigits_cons,
            hrest]
          -- if the first digits differ they decide, as the others stay below the power of two
          cases u <;> cases v <;> simp <;> omega

/-- Rows of one width compare as their places in the count. -/
theorem rowValues_lt_iff {width i k : Nat} (hi : i < 2 ^ width) (hk : k < 2 ^ width) :
    rowValues i width < rowValues k width ↔ i < k := by
  have hvalue : ∀ n : Nat, n < 2 ^ width → valueOfDigits (rowValues n width) = n := by
    intro n hn
    have hmod := valueOfDigits_rowValues n width
    rw [Int.emod_eq_of_lt (Int.natCast_nonneg n) (by exact_mod_cast hn)] at hmod
    exact_mod_cast hmod
  rw [← valueOfDigits_lt_iff (by simp), hvalue i hi, hvalue k hk]

/-! ## All rows, in order -/

/-- Every row of the width is below the one before. -/
theorem allValues_descending (width : Nat) :
    (allValues width).Pairwise fun above below => below < above := by
  rw [allValues, List.pairwise_map, List.pairwise_reverse]
  refine List.pairwise_lt_range.imp_of_mem ?_
  intro i k hi hk hlt
  exact (rowValues_lt_iff (List.mem_range.mp hi) (List.mem_range.mp hk)).mpr hlt

theorem length_allValues (width : Nat) : (allValues width).length = 2 ^ width := by
  simp [allValues]

/-- No row of the width occurs twice. -/
theorem nodup_allValues (width : Nat) : (allValues width).Nodup := by
  refine (allValues_descending width).imp ?_
  rintro above below hlt rfl
  exact List.lt_irrefl _ hlt

/-- Every row of the width occurs once. -/
theorem count_allValues {width : Nat} {values : List Bool} (h : values.length = width) :
    (allValues width).count values = 1 :=
  List.count_eq_one_of_mem (nodup_allValues width) (mem_allValues.mpr h)

/-! ## The last column of a name -/

/-- The last of the columns with that name is the one at `i`. -/
def IsLastColumn (columns : List String) (name : String) (i : Nat) : Prop :=
  columns[i]? = some name ∧ ∀ j, i < j → columns[j]? ≠ some name

theorem IsLastColumn.exists_of_mem {columns : List String} {name : String} (h : name ∈ columns) :
    ∃ i, IsLastColumn columns name i := by
  induction columns with
  | nil => exact absurd h (by simp)
  | cons column rest ih =>
      by_cases hrest : name ∈ rest
      · obtain ⟨i, hi, hlater⟩ := ih hrest
        refine ⟨i + 1, hi, ?_⟩
        rintro (_ | j) hj
        · omega
        · exact hlater j (by omega)
      · obtain rfl : name = column := (List.mem_cons.mp h).resolve_right hrest
        refine ⟨0, rfl, ?_⟩
        rintro (_ | j) hj hget
        · omega
        · exact hrest (List.mem_of_getElem? hget)

namespace Assignment

/-- Every name with a column has the value of the last one. -/
def TakesLast (a : Assignment Bool) (columns : List String) (values : List Bool) : Prop :=
  ∀ name i, IsLastColumn columns name i → a.get? name = values[i]?

/-- A row makes such an assignment. -/
theorem takesLast_ofValues {columns : List String} {values : List Bool}
    (h : values.length = columns.length) : (ofValues columns values).TakesLast columns values := by
  intro name i hlast
  induction columns generalizing values i with
  | nil => exact absurd hlast.1 (by simp)
  | cons column rest ih =>
      cases values with
      | nil => exact absurd h (by simp)
      | cons value values =>
          have hlength : values.length = rest.length := Nat.succ.inj h
          -- the columns behind the first are asked before it
          have hsplit : (ofValues (column :: rest) (value :: values)).get? name =
              ((ofValues rest values).get? name).or ([(column, value)].lookup name) := by
            simp [get?, ofValues, ofPairs, List.lookup_append]
          cases i with
          | zero =>
              have hcolumn : column = name := by simpa using hlast.1
              have hnone : (ofValues rest values).get? name = none := by
                rw [← Option.not_isSome_iff_eq_none]
                intro hbinds
                obtain ⟨j, hj⟩ := List.getElem?_of_mem ((binds_ofValues hlength).mp hbinds)
                exact hlast.2 (j + 1) (by omega) hj
              rw [hsplit, hnone, hcolumn]
              simp
          | succ i =>
              have hrest : IsLastColumn rest name i := by
                refine ⟨hlast.1, ?_⟩
                intro j hj
                exact hlast.2 (j + 1) (by omega)
              have hi : i < values.length := by
                rw [hlength]
                exact (List.getElem?_eq_some_iff.mp hrest.1).1
              rw [hsplit, ih hlength i hrest, List.getElem?_cons_succ, List.getElem?_eq_getElem hi]
              rfl

/-- There is one value to take for every name with a column. -/
theorem TakesLast.get?_eq {a b : Assignment Bool} {columns : List String} {values : List Bool}
    (ha : a.TakesLast columns values) (hb : b.TakesLast columns values) {name : String}
    (h : name ∈ columns) : a.get? name = b.get? name := by
  obtain ⟨i, hi⟩ := IsLastColumn.exists_of_mem h
  rw [ha name i hi, hb name i hi]

/-- The first of some names that has no value in a row is the first one without a column. -/
theorem missing?_ofValues {columns : List String} {values : List Bool}
    (h : values.length = columns.length) (names : List String) :
    (ofValues columns values).missing? names = names.find? fun name => name ∉ columns := by
  refine List.find?_congr ?_
  intro name _
  exact decide_eq_decide.mpr (not_congr (binds_ofValues h))

end Assignment

/-! ## The outcome of an enumeration -/

namespace TruthTable

variable {f : Formula} {columns : List String}

/-- A name without a column is missed in the first row, and the first such name is reported. -/
theorem allRows_of_missing {name : String}
    (h : (f.leaves.find? fun name => name ∉ columns) = some name) :
    allRows f columns = .error (.unboundVariable name) := by
  obtain ⟨last, hlast⟩ : ∃ last, rowCount columns = last + 1 :=
    Nat.exists_eq_succ_of_ne_zero (Nat.two_pow_pos columns.length).ne'
  have hlength := length_rowValues last columns.length
  have hevaluate := Formula.evaluate_eq (.ofValues columns (rowValues last columns.length)) f
  rw [Assignment.reading, Assignment.missing?_ofValues hlength, h, Formula.evaluate] at hevaluate
  rw [allRows, hlast, rowsBelow, rowOf, hevaluate]

/-- The two questions decide an enumeration, the one on the number of columns first. -/
theorem enumerate_outcome (f : Formula) (columns : List String) (limit : Int) :
    (enumerate f columns limit).outcome =
      if limit < columns.length then .error (excess columns.length limit)
      else
        match f.leaves.find? fun name => name ∉ columns with
        | some name => .error (.unboundVariable name)
        | none => .ok (complete f columns) := by
  simp only [enumerate, Script.outcome_bind, Script.outcome_ofExcept, Script.outcome_detail,
    Script.outcome_pure, sizeCheck_none, Limit.check]
  split
  · rfl
  · cases hmissing : f.leaves.find? fun name => name ∉ columns with
    | some name =>
        rw [allRows_of_missing hmissing]
        rfl
    | none =>
        have hcovers : ∀ name ∈ f.leaves, name ∈ columns := by simpa using hmissing
        rw [allRows_of_covers hcovers]
        rfl

theorem rowValues_complete (f : Formula) (columns : List String) :
    (complete f columns).rows.map Row.values = allValues columns.length := by
  simp [complete, Function.comp_def]

theorem nodup_rows_complete (f : Formula) (columns : List String) :
    (complete f columns).rows.Nodup := by
  have hvalues : ((complete f columns).rows.map Row.values).Nodup := by
    rw [rowValues_complete]
    exact nodup_allValues columns.length
  exact hvalues.of_map _

theorem length_rows_complete (f : Formula) (columns : List String) :
    (complete f columns).rows.length = 2 ^ columns.length := by
  rw [complete, List.length_map, length_allValues]

/-- The result of a row is what the formula evaluates to where every name has the value of its last
column. -/
theorem evaluate_of_takesLast (hcovers : ∀ name ∈ f.leaves, name ∈ columns) {row : Row}
    (hrow : row ∈ (complete f columns).rows) {a : Assignment Bool}
    (ha : a.TakesLast columns row.values) : f.evaluate a = .ok row.result := by
  obtain ⟨hlength, hresult⟩ := mem_rows_complete.mp hrow
  have hget : ∀ name ∈ f.leaves, a.get? name = (Assignment.ofValues columns row.values).get? name :=
    fun name hname => ha.get?_eq (Assignment.takesLast_ofValues hlength) (hcovers name hname)
  have hbinds : ∀ name ∈ f.leaves, a.Binds name := by
    intro name hname
    rw [Assignment.Binds, hget name hname]
    exact (Assignment.binds_ofValues hlength).mpr (hcovers name hname)
  rw [Formula.evaluate_of_binds hbinds, hresult]
  congr 1
  refine Formula.meaning_congr ?_
  intro name hname
  rw [Assignment.value, Assignment.value, Assignment.truth?, Assignment.truth?, hget name hname]

/-- A table with more columns than allowed is refused. Otherwise the first name at a leaf that has
no column is reported. Otherwise the table has every row of its width once, each below the one
before, and the result of a row is what the formula evaluates to where every name has the value of
its last column. The refusal of too many columns tells how many rows the limit allows; a limit so
far below zero that this number has no value is refused for that instead. -/
theorem enumeration_is_complete_and_descending (f : Formula) (columns : List String)
    (limit : Int) :
    let outcome := (enumerate f columns limit).outcome
    (outcome = .error (.tooManyVariables columns.length limit) ↔
      limit < columns.length ∧ Decimal.hasPowerOfTwo limit) ∧
    (outcome = .error .exponentOutOfRange ↔
      limit < columns.length ∧ ¬ Decimal.hasPowerOfTwo limit) ∧
    (columns.length ≤ limit →
      (∀ name, outcome = .error (.unboundVariable name) ↔
        ∃ before after, f.leaves = before ++ name :: after ∧ (∀ other ∈ before, other ∈ columns) ∧
          name ∉ columns) ∧
      ((∀ name ∈ f.leaves, name ∈ columns) →
        ∃ rows, outcome = .ok ⟨columns, rows⟩ ∧ rows.length = 2 ^ columns.length ∧
          (rows.map Row.values).Pairwise (fun above below => below < above) ∧
          (∀ values, values.length = columns.length → (rows.map Row.values).count values = 1) ∧
          ∀ row ∈ rows, row.values.length = columns.length ∧
            (Assignment.ofValues columns row.values).TakesLast columns row.values ∧
            ∀ a : Assignment Bool, a.TakesLast columns row.values →
              f.evaluate a = .ok row.result)) := by
  intro outcome
  have houtcome : outcome = _ := enumerate_outcome f columns limit
  refine ⟨?_, ?_, ?_⟩
  · rw [houtcome]
    split
    · by_cases hpower : Decimal.hasPowerOfTwo limit <;> simp [excess, *]
    · split <;> simp [*]
  · rw [houtcome]
    split
    · by_cases hpower : Decimal.hasPowerOfTwo limit <;> simp [excess, *]
    · split <;> simp [*]
  · intro hlimit
    rw [if_neg (Int.not_lt.mpr hlimit)] at houtcome
    refine ⟨?_, ?_⟩
    · intro name
      rw [houtcome, ← find?_failing_iff]
      cases f.leaves.find? fun name => name ∉ columns <;> simp
    · intro hcovers
      have hrows := rowValues_complete f columns
      refine ⟨(complete f columns).rows, enumerate_of_le hcovers hlimit,
        length_rows_complete f columns, ?_, ?_, ?_⟩
      · rw [hrows]
        exact allValues_descending columns.length
      · intro values hvalues
        rw [hrows]
        exact count_allValues hvalues
      · intro row hrow
        obtain ⟨hlength, -⟩ := mem_rows_complete.mp hrow
        have htaken := Assignment.takesLast_ofValues hlength
        refine ⟨hlength, htaken, ?_⟩
        intro a ha
        exact evaluate_of_takesLast hcovers hrow ha

/-- With two columns for a premise there are eight rows, in which the second of them counts; without
a column the conclusion is missed. -/
theorem premise_has_value_of_second_column :
    let f : Formula := .binary .implies (.var "A") (.var "B")
    (∃ rows, (enumerate f ["A", "B", "A"] (3 : Int)).outcome = .ok ⟨["A", "B", "A"], rows⟩ ∧
      rows.length = 8 ∧ (rows.map Row.values).count [true, false, false] = 1 ∧
      ∀ row ∈ rows, row.values = [true, false, false] → row.result = true) ∧
    (enumerate f ["A"] (3 : Int)).outcome = .error (.unboundVariable "B") := by
  intro f
  obtain ⟨-, -, hrows⟩ := enumeration_is_complete_and_descending f ["A", "B", "A"] 3
  obtain ⟨-, -, hmissing⟩ := enumeration_is_complete_and_descending f ["A"] 3
  obtain ⟨rows, houtcome, hlength, -, hcount, hresults⟩ := (hrows (by decide)).2 (by decide)
  refine ⟨⟨rows, houtcome, hlength, hcount _ rfl, ?_⟩, ?_⟩
  · intro row hrow hvalues
    obtain ⟨-, htaken, hevaluate⟩ := hresults row hrow
    have hresult := hevaluate _ htaken
    rw [hvalues, Formula.evaluate_eq_onTree] at hresult
    exact (Except.ok.inj hresult).symm
  · exact ((hmissing (by decide)).1 "B").mpr ⟨["A"], [], rfl, by decide, by decide⟩

/-- A limit can be so far below zero that the refusal of a formula over it cannot be put into
words. -/
theorem limit_without_number_of_rows :
    ¬ ∀ (f : Formula) (columns : List String) (limit : Int),
      (enumerate f columns limit).outcome = .error (.tooManyVariables columns.length limit) ↔
        limit < columns.length := by
  intro h
  let limit : Int := -Decimal.leastUnrounded
  have hlimit : limit < ["A"].length := by
    show -(Decimal.leastUnrounded : Int) < 1
    omega
  have hrefused := (h (.var "A") ["A"] limit).mpr hlimit
  rw [enumerate_outcome, if_pos hlimit, excess, if_neg Decimal.not_hasPowerOfTwo_leastUnrounded]
    at hrefused
  exact absurd hrefused (by simp)

end TruthTable

end Sentential
