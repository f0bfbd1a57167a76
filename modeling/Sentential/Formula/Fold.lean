/-
# Sentential.Formula.Fold -- combining the parts of a formula on a value stack

A `Fold` says what a leaf is worth and how a connective combines the worths of its operands.
Applied to a children-first list of nodes it is a stack machine: a leaf pushes, a negation
replaces the top, a connective replaces the top two, of which the right operand is the upper one.
Applied to the tree itself it is recursion. Evaluation and rendering are both folds.
-/
import Sentential.Formula.Basic

namespace Sentential

/-- How the worth of a formula comes from its parts. A leaf may be refused; `underflow` is what a
list of nodes fails with that takes more values than it has pushed. -/
structure Fold (ε β : Type) where
  leaf : String → Except ε β
  negate : β → β
  join : Connective → β → β → β
  underflow : ε

namespace Fold

variable {ε β : Type}

/-- The stack after one node. -/
def step (fold : Fold ε β) (stack : List β) : Formula → Except ε (List β)
  | .var name => (fold.leaf name).map (· :: stack)
  | .neg _ =>
    match stack with
    | value :: rest => .ok (fold.negate value :: rest)
    | [] => .error fold.underflow
  | .binary op _ _ =>
    match stack with
    | right :: left :: rest => .ok (fold.join op left right :: rest)
    | _ => .error fold.underflow

/-- The stack after every node of a list. -/
def exec (fold : Fold ε β) (stack : List β) : List Formula → Except ε (List β)
  | [] => .ok stack
  | node :: nodes =>
    match fold.step stack node with
    | .ok next => fold.exec next nodes
    | .error e => .error e

/-- The value on top after every node of a list, from an empty stack. -/
def run (fold : Fold ε β) (nodes : List Formula) : Except ε β :=
  match fold.exec [] nodes with
  | .ok (value :: _) => .ok value
  | .ok [] => .error fold.underflow
  | .error e => .error e

/-- The worth of a formula by recursion on it: the leftmost refused leaf refuses the whole. -/
def onTree (fold : Fold ε β) : Formula → Except ε β
  | .var name => fold.leaf name
  | .neg f => (fold.onTree f).map fold.negate
  | .binary op l r =>
    match fold.onTree l with
    | .ok left => (fold.onTree r).map (fold.join op left)
    | .error e => .error e

/-- On the nodes of a formula the machine pushes the worth of the formula, whatever is on the
stack and whatever follows; if a leaf is refused, it stops there. -/
theorem exec_nodes (fold : Fold ε β) (f : Formula) (stack : List β) (rest : List Formula) :
    fold.exec stack (f.nodes ++ rest) =
      match fold.onTree f with
      | .ok value => fold.exec (value :: stack) rest
      | .error e => .error e := by
  induction f generalizing stack rest with
  | var name =>
    simp only [Formula.nodes, List.cons_append, List.nil_append, exec, step, onTree]
    cases fold.leaf name <;> rfl
  | neg f ih =>
    rw [Formula.nodes, List.append_assoc, ih, onTree]
    cases fold.onTree f <;> rfl
  | binary op l r ihl ihr =>
    rw [Formula.nodes, List.append_assoc, List.append_assoc, ihl, onTree]
    cases fold.onTree l with
    | error e => rfl
    | ok left =>
      simp only
      rw [ihr]
      cases fold.onTree r <;> rfl

/-- The machine and the recursion give a formula the same worth. -/
theorem run_nodes (fold : Fold ε β) (f : Formula) : fold.run f.nodes = fold.onTree f := by
  have h := fold.exec_nodes f [] []
  rw [List.append_nil] at h
  rw [run, h]
  cases fold.onTree f <;> rfl

end Fold

end Sentential
