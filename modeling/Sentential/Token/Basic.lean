/-
# Sentential.Token.Basic -- the words of a formula

A token is a lexeme of a formula's text together with its kind and the place where it starts,
counted in characters. Every connective has more than one spelling; the kind forgets which was
used and the text keeps it.
-/
import Sentential.Connective

namespace Sentential

/-- What a token is to the grammar. -/
inductive TokenKind where
  | identifier
  | negation
  | connective (op : Connective)
  | opening
  | closing
  deriving DecidableEq, Repr, Inhabited

/-- The name of a kind in error texts. -/
def TokenKind.name : TokenKind → String
  | .identifier => "ID"
  | .negation => "NOT"
  | .connective op => op.name
  | .opening => "LPAREN"
  | .closing => "RPAREN"

/-- A token can end an operand. -/
def TokenKind.endsOperand : TokenKind → Bool
  | .identifier => true
  | .closing => true
  | _ => false

/-- A lexeme, its kind, and the number of characters before it. -/
structure Token where
  kind : TokenKind
  text : String
  index : Nat
  deriving DecidableEq, Repr, Inhabited

end Sentential
