/-
# Sentential.Parser.State -- a parser that takes one token at a time

The parser is always in one of two positions: it wants an operand, or it has one. Everything
begun and not finished is on a stack: negations waiting for their operand, left operands waiting
for the right one, and open groups. An operand is finished as soon as it can be: negations are
applied at once, and a connective takes the operand to its left together with every waiting
connective that binds as tightly or tighter, which is what makes all of them group to the left.

A token that has no place in the current position is refused, and there is no other failure
before the end. At the end the parser has to have an operand and no group may be open.
-/
import Sentential.Formula.Basic
import Sentential.Token.Basic

namespace Sentential.Parser

/-- Something begun and not finished. -/
inductive Frame where
  /-- A negation waiting for its operand. -/
  | negation
  /-- A left operand and its connective waiting for the right operand. -/
  | operand (left : Formula) (op : Connective)
  /-- An open group. -/
  | group
  deriving DecidableEq, Repr

/-- Where the parser stands: what is unfinished, innermost first, and the operand it has, if it
does not want one. -/
structure State where
  stack : List Frame
  current : Option Formula
  deriving DecidableEq, Repr

/-- Before the first token: nothing begun, and an operand wanted. -/
def State.start : State := ⟨[], none⟩

/-! ## Finishing operands -/

/-- Applies the negations on top of the stack. -/
def negated : List Frame → Formula → State
  | .negation :: rest, f => negated rest (.neg f)
  | stack, f => ⟨stack, some f⟩

/-- Joins the waiting left operands on top of the stack whose connective binds at least as tightly
as `tightness`. -/
def joined (tightness : Nat) : List Frame → Formula → List Frame × Formula
  | .operand left op :: rest, f =>
    if tightness ≤ op.tightness then joined tightness rest (.binary op left f)
    else (.operand left op :: rest, f)
  | stack, f => (stack, f)

/-! ## Steps -/

/-- The state after a token where an operand is wanted. -/
def State.begin? (stack : List Frame) (token : Token) : Option State :=
  match token.kind with
  | .identifier => some (negated stack (.var token.text))
  | .negation => some ⟨.negation :: stack, none⟩
  | .opening => some ⟨.group :: stack, none⟩
  | .connective _ => none
  | .closing => none

/-- The state after a token that follows the operand `f`. -/
def State.continue? (stack : List Frame) (f : Formula) (token : Token) : Option State :=
  match token.kind with
  | .connective op =>
    let (stack, left) := joined op.tightness stack f
    some ⟨.operand left op :: stack, none⟩
  | .closing =>
    match joined 0 stack f with
    | (.group :: rest, inner) => some (negated rest inner)
    | _ => none
  | .identifier => none
  | .negation => none
  | .opening => none

/-- The state after a token; `none` if the token is refused. -/
def State.step? (state : State) (token : Token) : Option State :=
  match state.current with
  | none => State.begin? state.stack token
  | some f => State.continue? state.stack f token

/-- The state after all tokens, or the first one refused. -/
def State.run (state : State) : List Token → Except Token State
  | [] => .ok state
  | token :: rest =>
    match state.step? token with
    | some next => next.run rest
    | none => .error token

/-- The formula, if the tokens so far make one. -/
def State.result? (state : State) : Option Formula :=
  match state.current with
  | none => none
  | some f =>
    match joined 0 state.stack f with
    | ([], whole) => some whole
    | _ => none

end Sentential.Parser
