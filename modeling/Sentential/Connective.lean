/-
# Sentential.Connective -- the four binary connectives

Conjunction, disjunction, implication and equivalence: what each means on truth values and how
tightly each binds its operands. Negation binds tighter than all four. Every connective groups to
the left.
-/

namespace Sentential

/-- A connective that joins two formulas. -/
inductive Connective where
  | and
  | or
  | implies
  | iff
  deriving DecidableEq, Repr, Inhabited

namespace Connective

/-- The truth value of a formula from those of its two operands, left operand first. -/
def apply : Connective → Bool → Bool → Bool
  | .and, p, q => p && q
  | .or, p, q => p || q
  | .implies, p, q => !p || q
  | .iff, p, q => p == q

/-- How tightly a connective binds: conjunction most, equivalence least. -/
def tightness : Connective → Nat
  | .and => 3
  | .or => 2
  | .implies => 1
  | .iff => 0

/-- The other one of conjunction and disjunction; the remaining two have no dual among the four
and stay. -/
def dual : Connective → Connective
  | .and => .or
  | .or => .and
  | op => op

/-- The ASCII sign of a connective. -/
def sign : Connective → String
  | .and => "&"
  | .or => "|"
  | .implies => "->"
  | .iff => "<->"

/-- The name of a connective where tokens and clauses are listed. -/
def name : Connective → String
  | .and => "AND"
  | .or => "OR"
  | .implies => "IMPLIES"
  | .iff => "EQUIV"

end Connective

end Sentential
