/-
# Sentential.Token.Grammar -- which lists of tokens are formulas

The grammar has one category for each connective, from the loosest to the tightest, one for
negations, and one for names and groups; each category contains the next tighter one. A connective
has its own category on the left and the next tighter one on the right, which is what grouping to
the left means. A derivation carries the formula that it makes and how deeply it encloses its
operands.

The relation says nothing about how a formula is found. It is what the parser and the count of
nesting are measured against.
-/
import Sentential.Formula.Basic
import Sentential.Token.Basic

namespace Sentential

/-- A syntactic category. -/
inductive Category where
  /-- Formulas whose outermost connective binds at least as tightly as `op`. -/
  | joined (op : Connective)
  /-- Negations and what they apply to. -/
  | negated
  /-- Names and groups. -/
  | primary
  deriving DecidableEq, Repr

/-- The next tighter category than that of a connective: what can stand to its right. -/
def Category.within : Connective → Category
  | .iff => .joined .implies
  | .implies => .joined .or
  | .or => .joined .and
  | .and => .negated

/-- The category of whole formulas. -/
def Category.whole : Category := .joined .iff

/-- `Derives c ts f d`: the tokens `ts` are of category `c`, make the formula `f`, and enclose its
variables `d` deep at most. -/
inductive Derives : Category → List Token → Formula → Nat → Prop where
  | name {t : Token} : t.kind = .identifier → Derives .primary [t] (.var t.text) 0
  | group {opening closing : Token} {ts : List Token} {f : Formula} {d : Nat} :
      opening.kind = .opening → closing.kind = .closing → Derives .whole ts f d →
      Derives .primary (opening :: ts ++ [closing]) f (d + 1)
  | negation {t : Token} {ts : List Token} {f : Formula} {d : Nat} :
      t.kind = .negation → Derives .negated ts f d →
      Derives .negated (t :: ts) (.neg f) (d + 1)
  | join {op : Connective} {t : Token} {ls rs : List Token} {l r : Formula} {dl dr : Nat} :
      t.kind = .connective op → Derives (.joined op) ls l dl →
      Derives (.within op) rs r dr →
      Derives (.joined op) (ls ++ t :: rs) (.binary op l r) (max dl dr)
  | unjoined {op : Connective} {ts : List Token} {f : Formula} {d : Nat} :
      Derives (.within op) ts f d → Derives (.joined op) ts f d
  | unnegated {ts : List Token} {f : Formula} {d : Nat} :
      Derives .primary ts f d → Derives .negated ts f d

/-- The tokens are a formula. -/
def WellFormed (ts : List Token) : Prop := ∃ f d, Derives .whole ts f d

/-- Some formula begins with the tokens. -/
def Viable (ts : List Token) : Prop := ∃ rest, WellFormed (ts ++ rest)

end Sentential
