/-
# Sentential.Formula.Rendering -- formulas as text

A formula is written with every connective in parentheses of its own and none around negations
and variables, so that its text says how it is grouped without any rule of precedence. The plain
text uses the ASCII signs; a rendering uses a set of symbols.
-/
import Sentential.Fault
import Sentential.Formula.Fold
import Sentential.Formula.Traversal
import Sentential.Symbols

namespace Sentential.Formula

/-- Texts combined with the spellings of `symbols`. -/
def rendering (symbols : Symbols) : Fold Fault String where
  leaf := .ok
  negate text := symbols.negation ++ text
  join op left right := "(" ++ left ++ symbols.joiner op ++ right ++ ")"
  underflow := .emptyStack

/-- The text of `f` in the spelling of `symbols`. -/
def render (symbols : Symbols) (f : Formula) : Except Fault String :=
  (rendering symbols).run f.postorder

/-- Texts combined with the ASCII signs. -/
def plainly : Fold Fault String where
  leaf := .ok
  negate text := "~" ++ text
  join op left right := "(" ++ left ++ " " ++ op.sign ++ " " ++ right ++ ")"
  underflow := .emptyStack

/-- The plain text of `f`. -/
def plainText (f : Formula) : Except Fault String := plainly.run f.postorder

end Sentential.Formula
