/-
# Sentential.Parser.Diagnosis -- what is missing at the end of a text

When a text ends before a formula does, its tokens alone tell what would repair it: a text that
ends with an operand lacks closing parentheses, as many as are open, and any other lacks an
operand first.
-/
import Sentential.Fault

namespace Sentential.Parser

/-- How many tokens of a list have that kind. -/
def countKind (kind : TokenKind) (tokens : List Token) : Nat :=
  tokens.countP (·.kind = kind)

/-- The fault of a list of tokens that ends too early. -/
def endFault (tokens : List Token) : Fault :=
  match tokens.getLast? with
  | none => .emptyFormula
  | some last =>
    let opened := countKind .opening tokens
    let closed := countKind .closing tokens
    if closed < opened ∧ last.kind.endsOperand then .unclosedGroups (opened - closed)
    else .missingOperand last.text

end Sentential.Parser
