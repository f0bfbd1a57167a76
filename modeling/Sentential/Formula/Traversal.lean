/-
# Sentential.Formula.Traversal -- walks over a tree with an explicit stack

A formula with tens of thousands of connectives in a row is an ordinary formula, so every pass
over a tree is a loop that keeps the subformulas still to visit on a list. Both loops end because
the subformulas on the list hold fewer nodes after every step.
-/
import Sentential.Formula.Basic

namespace Sentential.Formula

/-- The number of nodes in all formulas of a list. -/
def totalSize : List Formula → Nat
  | [] => 0
  | f :: rest => f.size + totalSize rest

/-! ## Children-first listing -/

/-- Moves the formulas of `stack`, the last one first, to the front of `order`, each with its
operands before it. -/
def listOnto : (stack order : List Formula) → List Formula
  | [], order => order
  | .var name :: stack, order => listOnto stack (.var name :: order)
  | .neg f :: stack, order => listOnto (f :: stack) (.neg f :: order)
  | .binary op l r :: stack, order => listOnto (r :: l :: stack) (.binary op l r :: order)
termination_by stack => totalSize stack
decreasing_by all_goals simp only [totalSize, size]; omega

/-- The nodes of `f`, operands before the node that owns them and left before right. -/
def postorder (f : Formula) : List Formula := listOnto [f] []

/-- The walk takes the first formula of the stack completely before it goes on to the next. -/
theorem listOnto_cons (f : Formula) (stack order : List Formula) :
    listOnto (f :: stack) order = listOnto stack (f.nodes ++ order) := by
  induction f generalizing stack order with
  | var name => rw [listOnto]; rfl
  | neg f ih => rw [listOnto, ih, nodes, List.append_assoc]; rfl
  | binary op l r ihl ihr =>
    rw [listOnto, ihr, ihl, nodes, List.append_assoc, List.append_assoc]; rfl

/-- The loop lists what recursion lists. -/
theorem postorder_eq_nodes (f : Formula) : f.postorder = f.nodes := by
  rw [postorder, listOnto_cons, listOnto, List.append_nil]

/-! ## Depth of the lowest leaf -/

/-- The greatest of `deepest` and the depths reached below the formulas of `stack`, each paired
with the depth it stands at. -/
def deepestOf : (stack : List (Formula × Nat)) → (deepest : Nat) → Nat
  | [], deepest => deepest
  | (.var _, depth) :: stack, deepest => deepestOf stack (max deepest depth)
  | (.neg f, depth) :: stack, deepest => deepestOf ((f, depth + 1) :: stack) (max deepest depth)
  | (.binary _ l r, depth) :: stack, deepest =>
    deepestOf ((r, depth + 1) :: (l, depth + 1) :: stack) (max deepest depth)
termination_by stack => totalSize (stack.map Prod.fst)
decreasing_by all_goals simp only [List.map_cons, totalSize, size]; omega

/-- The height of `f`, a leaf having height 1. -/
def walkedHeight (f : Formula) : Nat := deepestOf [(f, 1)] 0

/-- Below a formula that stands at `depth + 1` the walk gets as deep as the formula is high. -/
theorem deepestOf_cons (f : Formula) (depth deepest : Nat) (stack : List (Formula × Nat)) :
    deepestOf ((f, depth + 1) :: stack) deepest =
      deepestOf stack (max deepest (depth + f.height)) := by
  induction f generalizing depth deepest stack with
  | var name => rw [deepestOf]; rfl
  | neg f ih =>
    rw [deepestOf, ih, height]
    congr 1
    omega
  | binary op l r ihl ihr =>
    rw [deepestOf, ihr, ihl, height]
    congr 1
    omega

/-- The loop finds the height that recursion gives. -/
theorem walkedHeight_eq_height (f : Formula) : f.walkedHeight = f.height := by
  rw [walkedHeight, deepestOf_cons, deepestOf]
  omega

end Sentential.Formula
