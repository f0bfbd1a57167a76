/-
# Sentential.Proofs.Grammar.Tightness -- the order of the categories

The categories of the grammar form a chain: each contains the next tighter one, and nothing else
relates them. Numbering the chain from the loosest category upwards makes "can stand where a
formula of that category is asked for" a comparison of numbers. The number of a connective's
category is the tightness of the connective, and one more belongs to what stands to its right.
-/
import Sentential.Token.Grammar

namespace Sentential

/-! ## The chain of categories -/

namespace Category

/-- The place of a category in the chain, loosest first. -/
def tightness : Category → Nat
  | .joined op => op.tightness
  | .negated => 4
  | .primary => 5

/-- The category that another contains by the rule without a token of its own. -/
def inner : Category → Category
  | .joined op => .within op
  | .negated => .primary
  | .primary => .primary

@[simp]
theorem tightness_within (op : Connective) : (within op).tightness = op.tightness + 1 := by
  cases op <;> rfl

theorem tightness_le (c : Category) : c.tightness ≤ 5 := by
  rcases c with (_ | _ | _ | _) | _ | _ <;> decide

theorem tightness_inner {c : Category} (h : c.tightness < 5) :
    c.inner.tightness = c.tightness + 1 := by
  cases c with
  | joined op => exact tightness_within op
  | negated => rfl
  | primary => exact absurd h (by decide)

/-- The category at a place of the chain. -/
def atTightness : Nat → Category
  | 0 => joined .iff
  | 1 => joined .implies
  | 2 => joined .or
  | 3 => joined .and
  | 4 => negated
  | _ => primary

theorem atTightness_tightness (c : Category) : atTightness c.tightness = c := by
  rcases c with (_ | _ | _ | _) | _ | _ <;> rfl

/-- The chain has one category at each place. -/
theorem tightness_injective {c c' : Category} (h : c.tightness = c'.tightness) : c = c' := by
  calc
    c = atTightness c.tightness := (atTightness_tightness c).symm
    _ = atTightness c'.tightness := by rw [h]
    _ = c' := atTightness_tightness c'

end Category

/-- A connective never binds as tightly as a negation. -/
theorem Connective.tightness_lt (op : Connective) : op.tightness < Category.negated.tightness := by
  cases op <;> decide

/-! ## Standing in for a looser category -/

theorem Derives.of_inner {c : Category} {ts : List Token} {f : Formula} {d : Nat}
    (h : Derives c.inner ts f d) : Derives c ts f d := by
  cases c with
  | joined op => exact .unjoined h
  | negated => exact .unnegated h
  | primary => exact h

/-- What is of a category is of every looser one, with the same formula and the same depth. -/
theorem Derives.loosen {c c' : Category} {ts : List Token} {f : Formula} {d : Nat}
    (h : Derives c ts f d) (hc : c'.tightness ≤ c.tightness) : Derives c' ts f d := by
  obtain ⟨steps, hsteps⟩ := Nat.exists_eq_add_of_le hc
  -- on the length of the chain between the two; the looser end moves
  induction steps generalizing c' with
  | zero =>
      have heq : c' = c := Category.tightness_injective hsteps.symm
      exact heq ▸ h
  | succ steps ih =>
      have hle := c.tightness_le
      have hinner : c'.inner.tightness = c'.tightness + 1 :=
        Category.tightness_inner (by omega)
      exact .of_inner (ih (by omega) (by omega))

end Sentential
