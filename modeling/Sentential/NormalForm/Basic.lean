/-
# Sentential.NormalForm.Basic -- normal forms as lists of clauses

A literal is a variable or its negation, a clause joins literals by one connective, and a normal
form joins clauses by the connective of its kind. A form without clauses is a constant: the empty
disjunction is false and the empty conjunction is true. Forms need not be canonical, nor clauses of
the connective their kind suggests; what they mean is then still fixed below: in evaluation and
text a clause not joined by conjunction counts as joined by disjunction, in its tree it keeps its
own connective.
-/
import Sentential.Formula.Evaluation
import Sentential.Symbols

namespace Sentential

/-! ## Literals -/

/-- A variable, negated or not. -/
structure Literal where
  name : String
  negated : Bool
  deriving DecidableEq, Repr, Inhabited

namespace Literal

/-- The truth value of a literal. -/
def evaluate {α : Type} [Truth α] (a : Assignment α) (l : Literal) : Except Fault Bool :=
  (a.read l.name).map (· != l.negated)

/-- A literal as a formula. -/
def toFormula (l : Literal) : Formula :=
  if l.negated then .neg (.var l.name) else .var l.name

/-- A literal as text. -/
def render (symbols : Symbols) (l : Literal) : String :=
  if l.negated then symbols.negation ++ l.name else l.name

/-- The literal with the opposite sign. -/
def flip (l : Literal) : Literal := ⟨l.name, !l.negated⟩

end Literal

/-- The results of a test on every member of a list, in order; the first fault ends it. -/
def allResults {α : Type} (test : α → Except Fault Bool) : List α → Except Fault (List Bool)
  | [] => .ok []
  | x :: rest =>
    match test x with
    | .ok value => (allResults test rest).map (value :: ·)
    | .error fault => .error fault

/-- Formulas joined by one connective, grouped to the left. -/
def Formula.joinAll (op : Connective) (first : Formula) (rest : List Formula) : Formula :=
  rest.foldl (.binary op) first

/-! ## Clauses -/

/-- Literals joined by a connective. -/
structure Clause where
  literals : List Literal
  connective : Connective
  deriving DecidableEq, Repr, Inhabited

namespace Clause

/-- A clause of one literal needs no parentheses. -/
def isSingle (c : Clause) : Bool := c.literals.length = 1

/-- The truth value of a clause; every literal is read before any are combined. -/
def evaluate {α : Type} [Truth α] (a : Assignment α) (c : Clause) : Except Fault Bool :=
  (allResults (Literal.evaluate a) c.literals).map fun values =>
    if c.connective = .and then values.all id else values.any id

/-- A clause as a formula. -/
def toFormula (c : Clause) : Except Fault Formula :=
  match c.literals with
  | [] => .error .emptyClause
  | first :: rest => .ok (.joinAll c.connective first.toFormula (rest.map Literal.toFormula))

/-- What stands between the literals of a clause. -/
def joiner (symbols : Symbols) (c : Clause) : String :=
  if c.connective = .and then symbols.conjunction else symbols.disjunction

/-- The clause with every sign turned round and the dual connective: what it means is the
opposite. -/
def dual (c : Clause) : Clause := ⟨c.literals.map Literal.flip, c.connective.dual⟩

/-- A clause as text, in parentheses unless it is a single literal. -/
def render (symbols : Symbols) (c : Clause) : String :=
  let text := String.intercalate (c.joiner symbols) (c.literals.map (Literal.render symbols))
  if c.isSingle then text else "(" ++ text ++ ")"

end Clause

/-! ## Forms -/

/-- Which connective is outside. -/
inductive FormKind where
  /-- Clauses joined by disjunction. -/
  | disjunctive
  /-- Clauses joined by conjunction. -/
  | conjunctive
  deriving DecidableEq, Repr, Inhabited

namespace FormKind

/-- The short name of a kind. -/
def name : FormKind → String
  | .disjunctive => "DNF"
  | .conjunctive => "CNF"

/-- The connective that joins the clauses. -/
def outer : FormKind → Connective
  | .disjunctive => .or
  | .conjunctive => .and

/-- The constant that a form without clauses stands for. -/
def unit : FormKind → Bool
  | .disjunctive => false
  | .conjunctive => true

/-- The other kind. -/
def dual : FormKind → FormKind
  | .disjunctive => .conjunctive
  | .conjunctive => .disjunctive

end FormKind

/-- Clauses in order, joined as the kind says. -/
structure NormalForm where
  kind : FormKind
  clauses : List Clause
  deriving DecidableEq, Repr, Inhabited

namespace NormalForm

/-- A form without clauses. -/
def isConstant (form : NormalForm) : Bool := form.clauses.isEmpty

/-- The constant that a form is, if it is one. -/
def constant? (form : NormalForm) : Option Bool :=
  if form.isConstant then some form.kind.unit else none

/-- The truth value of a form; every literal of every clause is read before any are combined, and
a constant reads none. -/
def evaluate {α : Type} [Truth α] (a : Assignment α) (form : NormalForm) : Except Fault Bool :=
  (allResults (Clause.evaluate a) form.clauses).map fun values =>
    match form.kind with
    | .disjunctive => values.any id
    | .conjunctive => values.all id

/-- The formulas of clauses, in order; the first clause without literals ends it. -/
def clauseFormulas : List Clause → Except Fault (List Formula)
  | [] => .ok []
  | c :: rest =>
    match c.toFormula with
    | .ok f => (clauseFormulas rest).map (f :: ·)
    | .error fault => .error fault

/-- A form as a formula; a constant has none. -/
def toFormula (form : NormalForm) : Except Fault Formula :=
  match clauseFormulas form.clauses with
  | .ok [] => .error (.constantForm form.kind.unit)
  | .ok (first :: rest) => .ok (.joinAll form.kind.outer first rest)
  | .error fault => .error fault

/-- The form of the other kind with the dual of every clause. -/
def dual (form : NormalForm) : NormalForm := ⟨form.kind.dual, form.clauses.map Clause.dual⟩

/-- A form as text; a constant is written as the symbols say. -/
def render (symbols : Symbols) (form : NormalForm) : String :=
  match form.constant? with
  | some value => symbols.constant value
  | none =>
    .intercalate (symbols.joiner form.kind.outer) (form.clauses.map (Clause.render symbols))

end NormalForm

end Sentential
