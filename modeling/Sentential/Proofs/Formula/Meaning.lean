/-
# Sentential.Proofs.Formula.Meaning -- evaluation as reading names

Evaluation reads the names at the leaves in order and then depends on nothing but what was read.
`Assignment.reading` is the outcome of any computation of that shape: the first name without a
value ends it, and otherwise it has a value of its own. Evaluating a formula is reading its leaves
and coming to its meaning, and computations of this shape one after the other are again one.
-/
import Sentential.Formula.Evaluation

namespace Sentential

/-- The first of some names that fails a test stands behind names that pass it. -/
theorem find?_failing_iff {p : String → Prop} [DecidablePred p] {names : List String}
    {name : String} :
    (names.find? fun name => ¬ p name) = some name ↔
      ∃ before after, names = before ++ name :: after ∧ (∀ other ∈ before, p other) ∧
        ¬ p name := by
  simp only [List.find?_eq_some_iff_append, decide_not, Bool.not_eq_true',
    decide_eq_false_iff_not, Bool.not_not, decide_eq_true_eq]
  constructor
  · rintro ⟨hname, before, after, hsplit, hbefore⟩
    exact ⟨before, after, hsplit, hbefore, hname⟩
  · rintro ⟨before, after, hsplit, hbefore, hname⟩
    exact ⟨hname, before, after, hsplit, hbefore⟩

namespace Assignment

variable {α β γ : Type}

/-! ## Reading names in order -/

/-- How the value of a name reads; a name without one reads as false. -/
def value [Truth α] (a : Assignment α) (name : String) : Bool := (a.truth? name).getD false

/-- The first of the names that has no value. -/
def missing? (a : Assignment α) (names : List String) : Option String :=
  names.find? fun name => ¬ a.Binds name

/-- The outcome of reading the names in order and then coming to `result`. -/
def reading (a : Assignment α) (names : List String) (result : β) : Except Fault β :=
  match a.missing? names with
  | some name => .error (.unboundVariable name)
  | none => .ok result

theorem reading_map (a : Assignment α) (names : List String) (result : β) (g : β → γ) :
    (a.reading names result).map g = a.reading names (g result) := by
  unfold reading
  cases a.missing? names <;> rfl

theorem reading_append (a : Assignment α) (us vs : List String) (result : β) (next : γ) :
    (match a.reading us result with
      | .ok _ => a.reading vs next
      | .error fault => .error fault) = a.reading (us ++ vs) next := by
  unfold reading missing?
  rw [List.find?_append]
  cases us.find? fun name => ¬ a.Binds name <;> rfl

theorem missing?_eq_none_iff {a : Assignment α} {names : List String} :
    a.missing? names = none ↔ ∀ name ∈ names, a.Binds name := by
  simp [missing?]

theorem reading_of_binds {a : Assignment α} {names : List String}
    (h : ∀ name ∈ names, a.Binds name) (result : β) : a.reading names result = .ok result := by
  rw [reading, missing?_eq_none_iff.mpr h]

/-- The first of the names that has no value is `name`: all names in front of it have one. -/
def FirstMissing (a : Assignment α) (names : List String) (name : String) : Prop :=
  ∃ before after, names = before ++ name :: after ∧ (∀ other ∈ before, a.Binds other) ∧
    ¬ a.Binds name

theorem missing?_eq_some_iff {a : Assignment α} {names : List String} {name : String} :
    a.missing? names = some name ↔ a.FirstMissing names name :=
  find?_failing_iff

/-- Among names of which some have no value there is a first one of these. -/
theorem exists_firstMissing_iff {a : Assignment α} {names : List String} :
    (∃ name, a.FirstMissing names name) ↔ ∃ name ∈ names, ¬ a.Binds name := by
  simp only [← missing?_eq_some_iff, ← Option.isSome_iff_exists, missing?, List.find?_isSome,
    decide_eq_true_eq]

/-- Reading comes to a result where every name has a value, and to no other. -/
theorem reading_eq_ok_iff {a : Assignment α} {names : List String} {result value : β} :
    a.reading names result = .ok value ↔ (∀ name ∈ names, a.Binds name) ∧ result = value := by
  rw [← missing?_eq_none_iff, reading]
  cases a.missing? names <;> simp

/-- Reading fails for the first name without a value, whatever it would have come to. -/
theorem reading_eq_error_iff {a : Assignment α} {names : List String} {result : β}
    {fault : Fault} :
    a.reading names result = .error fault ↔
      ∃ name, a.FirstMissing names name ∧ fault = .unboundVariable name := by
  simp only [← missing?_eq_some_iff, reading]
  cases a.missing? names <;> simp [eq_comm]

/-- Either every name has a value, or there is a first one without. -/
theorem binds_or_firstMissing (a : Assignment α) (names : List String) :
    (∀ name ∈ names, a.Binds name) ∨ ∃ name, a.FirstMissing names name := by
  cases h : a.missing? names with
  | none => exact .inl (missing?_eq_none_iff.mp h)
  | some name => exact .inr ⟨name, missing?_eq_some_iff.mp h⟩

theorem reading_of_firstMissing {a : Assignment α} {names : List String} {name : String}
    (h : a.FirstMissing names name) (result : β) :
    a.reading names result = .error (.unboundVariable name) :=
  reading_eq_error_iff.mpr ⟨name, h, rfl⟩

/-- Reading one name gives what it reads as. -/
theorem read_eq [Truth α] (a : Assignment α) (name : String) :
    a.read name = a.reading [name] (a.value name) := by
  unfold read reading missing? value truth? Binds
  cases h : a.get? name <;> simp [h]

end Assignment

namespace Formula

variable {α : Type} [Truth α]

/-! ## Evaluation -/

theorem evaluate_eq_onTree (a : Assignment α) (f : Formula) :
    f.evaluate a = (evaluation a).onTree f := by
  rw [evaluate, postorder_eq_nodes, Fold.run_nodes]

/-- Evaluating a formula reads its leaves from left to right and comes to its meaning. -/
theorem evaluate_eq (a : Assignment α) (f : Formula) :
    f.evaluate a = a.reading f.leaves (f.meaning a.value) := by
  rw [evaluate_eq_onTree]
  induction f with
  | var name => exact a.read_eq name
  | neg f ih =>
      rw [Fold.onTree, ih]
      exact a.reading_map f.leaves (f.meaning a.value) _
  | binary op l r ihl ihr =>
      rw [Fold.onTree, ihl, ihr, leaves, ← a.reading_append l.leaves r.leaves (l.meaning a.value)]
      unfold Assignment.reading
      cases a.missing? l.leaves with
      | some name => rfl
      | none => exact a.reading_map r.leaves (r.meaning a.value) _

theorem evaluate_of_binds {a : Assignment α} {f : Formula}
    (h : ∀ name ∈ f.leaves, a.Binds name) : f.evaluate a = .ok (f.meaning a.value) := by
  rw [evaluate_eq, Assignment.reading_of_binds h]

/-- The meaning depends on the names at the leaves only. -/
theorem meaning_congr {f : Formula} {v w : String → Bool} (h : ∀ name ∈ f.leaves, v name = w name) :
    f.meaning v = f.meaning w := by
  induction f with
  | var name => exact h name (List.mem_singleton_self name)
  | neg f ih => rw [meaning, meaning, ih h]
  | binary op l r ihl ihr =>
      rw [meaning, meaning, ihl fun name hname => h name (List.mem_append_left _ hname),
        ihr fun name hname => h name (List.mem_append_right _ hname)]

end Formula

end Sentential
