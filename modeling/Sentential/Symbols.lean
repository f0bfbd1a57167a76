/-
# Sentential.Symbols -- how connectives and constants are written

A set of symbols fixes the spelling of every connective, with the spaces that surround a binary
one, and of the two constants that a normal form without clauses stands for. The two built-in sets
use spellings that the scanner reads.
-/
import Sentential.Connective

namespace Sentential

/-- A spelling for each connective and each constant. -/
structure Symbols where
  negation : String
  conjunction : String
  disjunction : String
  implication : String
  equivalence : String
  truth : String := "True"
  falsehood : String := "False"
  deriving DecidableEq, Repr, Inhabited

namespace Symbols

/-- Operators within ASCII. -/
def ascii : Symbols where
  negation := "~"
  conjunction := " & "
  disjunction := " | "
  implication := " -> "
  equivalence := " <-> "

/-- The logical glyphs for negation, conjunction and disjunction. -/
def unicode : Symbols where
  negation := "¬"
  conjunction := " ∧ "
  disjunction := " ∨ "
  implication := " -> "
  equivalence := " <-> "

/-- What stands between the two operands of a connective. -/
def joiner (symbols : Symbols) : Connective → String
  | .and => symbols.conjunction
  | .or => symbols.disjunction
  | .implies => symbols.implication
  | .iff => symbols.equivalence

/-- The text of a constant. -/
def constant (symbols : Symbols) : Bool → String
  | true => symbols.truth
  | false => symbols.falsehood

end Symbols

end Sentential
