/-
# Sentential.Token.Nesting -- how deeply the operands of a formula are enclosed

Each parenthesis open around an operand encloses it once, and so does each negation applied to it
or to a group around it. Connectives enclose nothing: a chain of any length is as flat as a single
variable. The count needs the tokens only, in one pass, and is made of any list of tokens; it
fails at a closing parenthesis that closes nothing.
-/
import Sentential.Token.Basic

namespace Sentential

/-- The state of the count: the greatest enclosure met, the enclosure of the present place, the
negations read since the last operand or opening parenthesis, and what each open group added,
innermost first. -/
structure Nesting where
  deepest : Nat
  level : Nat
  pending : Nat
  enclosing : List Nat
  deriving DecidableEq, Repr

namespace Nesting

/-- Before the first token. -/
def start : Nesting := ⟨0, 0, 0, []⟩

/-- After one more token; `none` at a closing parenthesis without an open group. -/
def next? (n : Nesting) (token : Token) : Option Nesting :=
  match token.kind with
  | .negation => some { n with pending := n.pending + 1 }
  | .opening =>
    some { n with
      level := n.level + (n.pending + 1)
      pending := 0
      enclosing := (n.pending + 1) :: n.enclosing }
  | .closing =>
    match n.enclosing with
    | added :: rest => some { n with level := n.level - added, enclosing := rest }
    | [] => none
  | .identifier =>
    some { n with deepest := max n.deepest (n.level + n.pending), pending := 0 }
  | .connective _ => some n

/-- The greatest enclosure after all of the tokens. -/
def over? (n : Nesting) : List Token → Option Nat
  | [] => some n.deepest
  | token :: rest =>
    match n.next? token with
    | some next => next.over? rest
    | none => none

end Nesting

/-- The greatest number of parentheses and negations around any identifier. -/
def nestingDepth? (tokens : List Token) : Option Nat := Nesting.start.over? tokens

end Sentential
