/-
# Sentential.Formula.Basic -- formulas as trees

A formula is a variable, a negation, or two formulas joined by a connective. The definitions here
recurse on the tree and say what its size, height, leaves and nodes are; the passes that run on
long formulas are loops over explicit lists (`Sentential.Formula.Traversal`) and return the same.
-/
import Sentential.Connective

namespace Sentential

/-- A propositional formula. -/
inductive Formula where
  | var (name : String)
  | neg (operand : Formula)
  | binary (op : Connective) (left right : Formula)
  deriving DecidableEq, Repr, Inhabited

namespace Formula

/-- The number of nodes. -/
def size : Formula → Nat
  | .var _ => 1
  | .neg f => f.size + 1
  | .binary _ l r => l.size + r.size + 1

/-- The number of nodes on the longest path from the root to a leaf. -/
def height : Formula → Nat
  | .var _ => 1
  | .neg f => f.height + 1
  | .binary _ l r => max l.height r.height + 1

/-- The variable names at the leaves, from left to right, with repetitions. -/
def leaves : Formula → List String
  | .var name => [name]
  | .neg f => f.leaves
  | .binary _ l r => l.leaves ++ r.leaves

/-- Every node, each after its operands and left before right. -/
def nodes : Formula → List Formula
  | .var name => [.var name]
  | .neg f => f.nodes ++ [.neg f]
  | .binary op l r => l.nodes ++ r.nodes ++ [.binary op l r]

theorem size_pos (f : Formula) : 0 < f.size := by
  cases f <;> simp [size]

theorem height_pos (f : Formula) : 0 < f.height := by
  cases f <;> simp [height]

theorem length_nodes (f : Formula) : f.nodes.length = f.size := by
  induction f with
  | var => rfl
  | neg f ih => simp [nodes, size, ih]
  | binary op l r ihl ihr => simp [nodes, size, ihl, ihr, Nat.add_assoc]

end Formula

end Sentential
