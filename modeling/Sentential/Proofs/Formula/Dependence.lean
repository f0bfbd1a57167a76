/-
# Sentential.Proofs.Formula.Dependence -- what a formula depends on

One walk over the nodes of a formula collects its variables and another one, with values on a stack,
evaluates it. Both meet the same leaves. So the variables are the names that must have a value if
there is to be a result, and the result is fixed by what the values of these names read as. An
assignment may hold further names, and values of any type: two assignments that agree on the
variables cannot be told apart by the formula, neither by its value nor by the name it misses.
-/
import Mathlib.Data.List.Find
import Sentential.Proofs.Formula.Meaning
import Sentential.Proofs.Formula.Variables

namespace Sentential

/-! ## The order of names -/

/-- The characters of a name as numbers. -/
def codePoints (name : String) : List Nat := name.toList.map Char.toNat

/-- Of two names the lower one has the lower code point where they first differ, or is the beginning
of the other. -/
theorem codePoints_lt {first second : String} (h : first < second) :
    codePoints first < codePoints second := by
  refine List.map_lt ?_ (String.lt_iff.mp h)
  intro c d hlt
  exact UInt32.lt_iff_toNat_lt.mp (Char.lt_def.mp hlt)

/-! ## Assignments that agree -/

section Agreement

variable {α β : Type} [Truth α] [Truth β] {a : Assignment α} {b : Assignment β}

theorem Assignment.binds_iff_isSome_truth? {name : String} :
    a.Binds name ↔ (a.truth? name).isSome := by
  rw [Binds, truth?, Option.isSome_map]

/-- Assignments that agree on some names miss the same one of them first. -/
theorem Assignment.missing?_congr {names : List String}
    (h : ∀ name ∈ names, a.truth? name = b.truth? name) : a.missing? names = b.missing? names := by
  refine List.find?_congr ?_
  intro name hname
  refine decide_eq_decide.mpr (not_congr ?_)
  rw [binds_iff_isSome_truth?, binds_iff_isSome_truth?, h name hname]

/-- Assignments that agree on the names at the leaves give a formula the same outcome. -/
theorem Formula.evaluate_congr {f : Formula}
    (h : ∀ name ∈ f.leaves, a.truth? name = b.truth? name) : f.evaluate a = f.evaluate b := by
  have hmissing : a.missing? f.leaves = b.missing? f.leaves := Assignment.missing?_congr h
  have hmeaning : f.meaning a.value = f.meaning b.value := by
    refine meaning_congr ?_
    intro name hname
    rw [Assignment.value, Assignment.value, h name hname]
  rw [evaluate_eq, evaluate_eq, Assignment.reading, Assignment.reading, hmissing, hmeaning]

end Agreement

/-! ## The variables -/

/-- The variables of a formula are the names at its leaves, listed in strictly ascending order of
their code points. It has a result under exactly those assignments that bind all of them. Two
assignments that agree on the variables, in the truth value that each of them has or in giving it
none, lead to the same outcome, whatever else they bind. -/
theorem formula_depends_on_its_variables (f : Formula) :
    (f.vars.Pairwise fun first second => codePoints first < codePoints second) ∧
    (∀ name, name ∈ f.vars ↔ name ∈ f.leaves) ∧
    (∀ (α : Type) [Truth α] (a : Assignment α),
      (∃ value, f.evaluate a = .ok value) ↔ ∀ name ∈ f.vars, a.Binds name) ∧
    ∀ (α β : Type) [Truth α] [Truth β] (a : Assignment α) (b : Assignment β),
      (∀ name ∈ f.vars, a.truth? name = b.truth? name) → f.evaluate a = f.evaluate b := by
  refine ⟨f.vars_ascending.imp codePoints_lt, fun _ => Formula.mem_vars, ?_, ?_⟩
  · intro α _ a
    simp only [Formula.evaluate_eq, Assignment.reading_eq_ok_iff, Formula.mem_vars,
      exists_and_left, exists_eq', and_true]
  · intro α β _ _ a b h
    refine Formula.evaluate_congr ?_
    intro name hname
    exact h name (Formula.mem_vars.mpr hname)

/-- Letters of either case are different names, and an implication between the two needs both; what
else is bound, and to what type of values, makes no difference to it. -/
theorem implication_depends_on_both_names :
    let f : Formula := .binary .implies (.var "b") (.binary .and (.var "B") (.neg (.var "b")))
    let a : Assignment Bool := ⟨[("b", true), ("B", false)]⟩
    let b : Assignment Datum := ⟨[("c", .null), ("B", .list 0), ("b", .text "no")]⟩
    "b" ∈ f.vars ∧ f.evaluate a = f.evaluate b ∧
      ¬ ∃ value, f.evaluate (⟨[("b", true), ("c", true)]⟩ : Assignment Bool) = .ok value := by
  intro f a b
  obtain ⟨-, hmem, hbound, hsame⟩ := formula_depends_on_its_variables f
  refine ⟨(hmem "b").mpr (by decide), hsame Bool Datum a b ?_, ?_⟩
  · intro name hname
    have hleaf : name ∈ ["b", "B", "b"] := (hmem name).mp hname
    simp only [List.mem_cons, List.not_mem_nil, or_false] at hleaf
    rcases hleaf with rfl | rfl | rfl <;> rfl
  · intro hvalue
    have hB := (hbound Bool _).mp hvalue "B" ((hmem "B").mpr (by decide))
    exact absurd hB (by decide)

end Sentential
