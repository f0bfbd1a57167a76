/-
# Sentential.Proofs.Formula.Evaluation -- evaluation follows the connectives

`Assignment.Gives` says what a formula is worth by one rule for each connective, and knows neither a
list of nodes nor a stack of values. Where a name has no value no rule applies to its leaf, and so
none to any formula around it. The stack machine comes to exactly the values that the rules give.
Where they give none it fails for the leftmost name without a value, since it reads every leaf, from
left to right, also those that could not change the result any more.
-/
import Sentential.Proofs.Formula.Meaning

namespace Sentential

variable {α : Type} [Truth α]

/-! ## The rules -/

/-- Under `a` the formula is worth `value`. -/
inductive Assignment.Gives (a : Assignment α) : Formula → Bool → Prop where
  | var {name : String} {x : α} : a.get? name = some x → a.Gives (.var name) (Truth.holds x)
  | neg {f : Formula} {p : Bool} : a.Gives f p → a.Gives (.neg f) (!p)
  | and {l r : Formula} {p q : Bool} :
      a.Gives l p → a.Gives r q → a.Gives (.binary .and l r) (p && q)
  | or {l r : Formula} {p q : Bool} :
      a.Gives l p → a.Gives r q → a.Gives (.binary .or l r) (p || q)
  | implies {l r : Formula} {p q : Bool} :
      a.Gives l p → a.Gives r q → a.Gives (.binary .implies l r) (!p || q)
  | iff {l r : Formula} {p q : Bool} :
      a.Gives l p → a.Gives r q → a.Gives (.binary .iff l r) (p == q)

namespace Assignment

variable {a : Assignment α} {value : Bool}

theorem gives_var_iff {name : String} :
    a.Gives (.var name) value ↔ a.Binds name ∧ a.value name = value := by
  unfold Binds Assignment.value truth?
  constructor
  · rintro ⟨hx⟩
    simp [hx]
  · rintro ⟨hbinds, rfl⟩
    obtain ⟨x, hx⟩ := Option.isSome_iff_exists.mp hbinds
    rw [hx]
    exact .var hx

theorem gives_neg_iff {f : Formula} : a.Gives (.neg f) value ↔ a.Gives f (!value) := by
  constructor
  · rintro ⟨⟩
    rwa [Bool.not_not]
  · intro h
    have hneg := Gives.neg h
    rwa [Bool.not_not] at hneg

theorem gives_binary_iff {op : Connective} {l r : Formula} :
    a.Gives (.binary op l r) value ↔
      ∃ p q, a.Gives l p ∧ a.Gives r q ∧ op.apply p q = value := by
  constructor
  · rintro (_ | _ | ⟨hl, hr⟩ | ⟨hl, hr⟩ | ⟨hl, hr⟩ | ⟨hl, hr⟩) <;> exact ⟨_, _, hl, hr, rfl⟩
  · rintro ⟨p, q, hl, hr, rfl⟩
    cases op with
    | and => exact .and hl hr
    | or => exact .or hl hr
    | implies => exact .implies hl hr
    | iff => exact .iff hl hr

/-- The rules give a formula its meaning, and do so where every name at a leaf has a value. -/
theorem gives_iff {f : Formula} :
    a.Gives f value ↔ (∀ name ∈ f.leaves, a.Binds name) ∧ f.meaning a.value = value := by
  induction f generalizing value with
  | var name =>
      rw [gives_var_iff, Formula.leaves, Formula.meaning]
      simp
  | neg f ih =>
      rw [gives_neg_iff, ih, Formula.leaves, Formula.meaning, Bool.not_eq_eq_eq_not]
  | binary op l r ihl ihr =>
      rw [gives_binary_iff, Formula.leaves, Formula.meaning, List.forall_mem_append]
      constructor
      · rintro ⟨p, q, hl, hr, rfl⟩
        obtain ⟨hbindsl, rfl⟩ := ihl.mp hl
        obtain ⟨hbindsr, rfl⟩ := ihr.mp hr
        exact ⟨⟨hbindsl, hbindsr⟩, rfl⟩
      · rintro ⟨⟨hbindsl, hbindsr⟩, hvalue⟩
        exact ⟨_, _, ihl.mpr ⟨hbindsl, rfl⟩, ihr.mpr ⟨hbindsr, rfl⟩, hvalue⟩

end Assignment

/-! ## The stack machine -/

/-- Evaluation comes to the values that the rules of the connectives give, and fails for the
leftmost name without a value where they give none. They give a value exactly if every name has
one. -/
theorem evaluation_follows_connectives (a : Assignment α) (f : Formula) :
    (∀ value, f.evaluate a = .ok value ↔ a.Gives f value) ∧
    (∀ fault, f.evaluate a = .error fault ↔
      ∃ name, a.FirstMissing f.leaves name ∧ fault = .unboundVariable name) ∧
    ((∃ value, a.Gives f value) ↔ ∀ name ∈ f.leaves, a.Binds name) ∧
    ((∃ name, a.FirstMissing f.leaves name) ↔ ∃ name ∈ f.leaves, ¬ a.Binds name) := by
  refine ⟨?_, ?_, ?_, Assignment.exists_firstMissing_iff⟩
  · intro value
    rw [Formula.evaluate_eq, Assignment.reading_eq_ok_iff, Assignment.gives_iff]
  · intro fault
    rw [Formula.evaluate_eq, Assignment.reading_eq_error_iff]
  · simp only [Assignment.gives_iff, exists_and_left, exists_eq', and_true]

/-- An implication has not the value of its converse; and a disjunction whose left operand is true
fails all the same, for the leftmost name without a value. -/
theorem decided_disjunction_misses_name :
    let a : Assignment Datum := ⟨[("A", .number 3 1), ("C", .text "")]⟩
    (Formula.binary .implies (.var "A") (.var "C")).evaluate a = .ok false ∧
    (Formula.binary .implies (.var "C") (.var "A")).evaluate a = .ok true ∧
    (Formula.binary .or (.var "A") (.binary .and (.var "B") (.var "D"))).evaluate a =
      .error (.unboundVariable "B") := by
  intro a
  have htrue : a.Gives (.var "A") true := .var (x := Datum.number 3 1) rfl
  have hfalse : a.Gives (.var "C") false := .var (x := Datum.text "") rfl
  refine ⟨?_, ?_, ?_⟩
  · exact ((evaluation_follows_connectives a _).1 false).mpr (.implies htrue hfalse)
  · exact ((evaluation_follows_connectives a _).1 true).mpr (.implies hfalse htrue)
  · apply ((evaluation_follows_connectives a _).2.1 _).mpr
    exact ⟨"B", ⟨["A"], ["D"], rfl, by decide, by decide⟩, rfl⟩

end Sentential
