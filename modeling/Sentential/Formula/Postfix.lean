/-
# Sentential.Formula.Postfix -- formulas as lists of instructions

The postfix form of a formula lists what its nodes are, operands first: a name, a negation or a
connective. Reading it back takes one pass with a stack; a list is the postfix form of a formula
exactly when that pass never lacks an operand and leaves one formula.
-/
import Sentential.Formula.Traversal

namespace Sentential

/-- One instruction of a postfix form. -/
inductive Instruction where
  | name (name : String)
  | negation
  | connective (op : Connective)
  deriving DecidableEq, Repr

namespace Formula

/-- What the root of a formula is. -/
def instruction : Formula → Instruction
  | .var name => .name name
  | .neg _ => .negation
  | .binary op _ _ => .connective op

/-- The postfix form of `f`. -/
def postfixForm (f : Formula) : List Instruction := f.postorder.map instruction

/-- The formulas on the stack after one instruction. -/
def build? (stack : List Formula) : Instruction → Option (List Formula)
  | .name name => some (.var name :: stack)
  | .negation =>
    match stack with
    | f :: rest => some (.neg f :: rest)
    | [] => none
  | .connective op =>
    match stack with
    | r :: l :: rest => some (.binary op l r :: rest)
    | _ => none

/-- The formula that a list of instructions builds from `stack`. -/
def ofPostfixFrom? (stack : List Formula) : List Instruction → Option Formula
  | [] =>
    match stack with
    | [f] => some f
    | _ => none
  | i :: rest =>
    match build? stack i with
    | some next => ofPostfixFrom? next rest
    | none => none

/-- The formula with that postfix form. -/
def ofPostfix? (instructions : List Instruction) : Option Formula :=
  ofPostfixFrom? [] instructions

end Formula

end Sentential
