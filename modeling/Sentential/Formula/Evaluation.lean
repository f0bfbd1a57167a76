/-
# Sentential.Formula.Evaluation -- the truth value of a formula

Evaluation is a fold whose leaves read the assignment. Every leaf is read, from left to right, so
the first name without a value is reported whatever the rest of the formula comes to.
-/
import Sentential.Assignment
import Sentential.Fault
import Sentential.Formula.Fold
import Sentential.Formula.Traversal

namespace Sentential

/-- The value that a name has under an assignment, as a truth value. -/
def Assignment.read {α : Type} [Truth α] (a : Assignment α) (name : String) : Except Fault Bool :=
  match a.truth? name with
  | some value => .ok value
  | none => .error (.unboundVariable name)

namespace Formula

/-- Truth values under `a`, combined as the connectives say. -/
def evaluation {α : Type} [Truth α] (a : Assignment α) : Fold Fault Bool where
  leaf := a.read
  negate value := !value
  join := Connective.apply
  underflow := .emptyStack

/-- The truth value of `f` under `a`. -/
def evaluate {α : Type} [Truth α] (a : Assignment α) (f : Formula) : Except Fault Bool :=
  (evaluation a).run f.postorder

/-- The truth value of a formula where every name has one. -/
def meaning (value : String → Bool) : Formula → Bool
  | .var name => value name
  | .neg f => !f.meaning value
  | .binary op l r => op.apply (l.meaning value) (r.meaning value)

end Formula

end Sentential
