/-
# Sentential.Formula.Variables -- the names a formula depends on

The variables of a formula are its distinct names in ascending order of code points. The order is
that of the columns of a truth table and of the literals of a clause.
-/
import Std.Data.TreeSet.Basic
import Sentential.Formula.Traversal

namespace Sentential.Formula

/-- The name at a leaf. -/
def name? : Formula → Option String
  | .var name => some name
  | _ => none

/-- Distinct names in ascending order. -/
def sortedNames (names : List String) : List String :=
  (names.foldl (fun found name => found.insert name) (∅ : Std.TreeSet String)).toList

/-- The variables of `f`. -/
def vars (f : Formula) : List String := sortedNames (f.postorder.filterMap name?)

end Sentential.Formula
