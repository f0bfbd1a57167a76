/-
# Sentential.Token.Respelling -- a formula's own words in other symbols

A text is written anew from its tokens: connectives and negations in the spelling of a set of
symbols, names and parentheses as they are. Grouping and order stay; white space is whatever the
symbols bring with them.
-/
import Sentential.Symbols
import Sentential.Token.Basic

namespace Sentential

/-- A token in the spelling of `symbols`. -/
def Token.respelled (symbols : Symbols) (token : Token) : String :=
  match token.kind with
  | .negation => symbols.negation
  | .connective op => symbols.joiner op
  | _ => token.text

/-- The text that the tokens make in the spelling of `symbols`. -/
def respelling (symbols : Symbols) (tokens : List Token) : String :=
  .join (tokens.map (Token.respelled symbols))

end Sentential
