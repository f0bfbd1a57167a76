/-
# Sentential.Proofs.NormalForm.Meaning -- what a form means, directly and as a tree

Evaluating a form reads the names of all literals in order and then depends on nothing but what was
read, just as evaluating a formula does. A form in which every clause has literals and every clause
of several literals is a conjunction or a disjunction has a tree with the same names in the same
order and the same meaning, so both ways of evaluating it have the same outcome, faults included.
-/
import Sentential.NormalForm.Basic
import Sentential.Proofs.Formula.Meaning

namespace Sentential

/-! ## Direct evaluation -/

/-- The meaning of a literal where every name has a value. -/
def Literal.meaning (v : String → Bool) (l : Literal) : Bool := v l.name != l.negated

namespace Clause

/-- The names of the literals. -/
def names (c : Clause) : List String := c.literals.map Literal.name

/-- The meaning of a clause where every name has a value. -/
def meaning (v : String → Bool) (c : Clause) : Bool :=
  let values := c.literals.map (Literal.meaning v)
  if c.connective = .and then values.all id else values.any id

end Clause

namespace NormalForm

/-- The names of all literals of all clauses. -/
def names (form : NormalForm) : List String := form.clauses.flatMap Clause.names

/-- The meaning of a form where every name has a value. -/
def meaning (v : String → Bool) (form : NormalForm) : Bool :=
  let values := form.clauses.map (Clause.meaning v)
  match form.kind with
  | .disjunctive => values.any id
  | .conjunctive => values.all id

end NormalForm

section Evaluation

variable {α : Type} (a : Assignment α)

theorem Literal.evaluate_eq [Truth α] (l : Literal) :
    l.evaluate a = a.reading [l.name] (l.meaning a.value) := by
  rw [evaluate, a.read_eq, a.reading_map, meaning]

/-- Tests that read names, made on every member of a list, read the names of all members. -/
theorem allResults_eq {β : Type} {test : β → Except Fault Bool} {names : β → List String}
    {value : β → Bool} {xs : List β} (h : ∀ x ∈ xs, test x = a.reading (names x) (value x)) :
    allResults test xs = a.reading (xs.flatMap names) (xs.map value) := by
  induction xs with
  | nil => rfl
  | cons x xs ih =>
      have htail := ih fun y hy => h y (List.mem_cons_of_mem x hy)
      rw [allResults, htail, h x (List.mem_cons_self ..), List.flatMap_cons, List.map_cons,
        ← a.reading_append (names x) (xs.flatMap names) (value x)]
      unfold Assignment.reading
      cases a.missing? (names x) with
      | some name => rfl
      | none => exact a.reading_map (xs.flatMap names) (xs.map value) (value x :: ·)

theorem Clause.evaluate_eq [Truth α] (c : Clause) :
    c.evaluate a = a.reading c.names (c.meaning a.value) := by
  have hliterals : allResults (Literal.evaluate a) c.literals =
      a.reading (c.literals.flatMap fun l => [l.name]) (c.literals.map (Literal.meaning a.value)) :=
    allResults_eq a fun l _ => l.evaluate_eq a
  have hnames : (c.literals.flatMap fun l => [l.name]) = c.names := by
    rw [names, List.map_eq_flatMap]
  rw [evaluate, hliterals, a.reading_map, hnames, meaning]

theorem NormalForm.evaluate_eq [Truth α] (form : NormalForm) :
    form.evaluate a = a.reading form.names (form.meaning a.value) := by
  have hclauses : allResults (Clause.evaluate a) form.clauses =
      a.reading form.names (form.clauses.map (Clause.meaning a.value)) :=
    allResults_eq a fun c _ => c.evaluate_eq a
  rw [evaluate, hclauses, a.reading_map]
  unfold meaning
  cases form.kind <;> rfl

end Evaluation

/-! ## Duals -/

@[simp]
theorem Literal.meaning_flip (v : String → Bool) (l : Literal) :
    l.flip.meaning v = !l.meaning v := by
  unfold meaning flip
  cases v l.name <;> cases l.negated <;> rfl

/-- One of some values negated holds if not all of the values do. -/
theorem any_map_not (values : List Bool) : (values.map (!·)).any id = !values.all id := by
  rw [List.any_map, List.not_all_eq_any_not]
  rfl

/-- All of some values negated hold if none of the values does. -/
theorem all_map_not (values : List Bool) : (values.map (!·)).all id = !values.any id := by
  rw [List.all_map, List.not_any_eq_all_not]
  rfl

/-- The dual of a conjunction or disjunction of literals means the opposite. -/
theorem Clause.meaning_dual {c : Clause} (h : c.connective = .and ∨ c.connective = .or)
    (v : String → Bool) : c.dual.meaning v = !c.meaning v := by
  obtain ⟨literals, op⟩ := c
  have hliterals : (literals.map Literal.flip).map (Literal.meaning v) =
      (literals.map (Literal.meaning v)).map (!·) := by
    rw [List.map_map, List.map_map]
    exact List.map_congr_left fun l _ => l.meaning_flip v
  rcases h with h | h
  · obtain rfl : op = .and := h
    show ((literals.map Literal.flip).map (Literal.meaning v)).any id =
      !(literals.map (Literal.meaning v)).all id
    rw [hliterals, any_map_not]
  · obtain rfl : op = .or := h
    show ((literals.map Literal.flip).map (Literal.meaning v)).all id =
      !(literals.map (Literal.meaning v)).any id
    rw [hliterals, all_map_not]

/-! ## Trees -/

namespace Formula

theorem leaves_joinAll (op : Connective) (first : Formula) (rest : List Formula) :
    (joinAll op first rest).leaves = first.leaves ++ rest.flatMap leaves := by
  -- the chain groups to the left, so it is the first formula that grows
  rw [joinAll]
  induction rest generalizing first with
  | nil => simp
  | cons g rest ih =>
      rw [List.foldl_cons, ih, leaves, List.flatMap_cons, List.append_assoc]

theorem meaning_joinAll_and (v : String → Bool) (first : Formula) (rest : List Formula) :
    (joinAll .and first rest).meaning v = ((first :: rest).map (meaning v)).all id := by
  rw [joinAll]
  induction rest generalizing first with
  | nil => simp
  | cons g rest ih =>
      simp only [List.foldl_cons, ih, List.map_cons, List.all_cons, meaning, Connective.apply, id,
        Bool.and_assoc]

theorem meaning_joinAll_or (v : String → Bool) (first : Formula) (rest : List Formula) :
    (joinAll .or first rest).meaning v = ((first :: rest).map (meaning v)).any id := by
  rw [joinAll]
  induction rest generalizing first with
  | nil => simp
  | cons g rest ih =>
      simp only [List.foldl_cons, ih, List.map_cons, List.any_cons, meaning, Connective.apply, id,
        Bool.or_assoc]

end Formula

namespace Literal

@[simp]
theorem leaves_toFormula (l : Literal) : l.toFormula.leaves = [l.name] := by
  unfold toFormula
  split <;> rfl

@[simp]
theorem meaning_toFormula (v : String → Bool) (l : Literal) :
    l.toFormula.meaning v = l.meaning v := by
  unfold toFormula meaning
  split
  · next h => simp only [h, Bool.bne_true]; rfl
  · next h => simp only [Bool.eq_false_iff.mpr h, Bool.bne_false]; rfl

end Literal

namespace Clause

/-- A clause that its tree agrees with: it has literals, and several of them are joined by
conjunction or disjunction. -/
structure Proper (c : Clause) : Prop where
  nonempty : c.literals ≠ []
  joined : c.connective = .and ∨ c.connective = .or ∨ c.isSingle

instance (c : Clause) : Decidable c.Proper :=
  decidable_of_iff (c.literals ≠ [] ∧ (c.connective = .and ∨ c.connective = .or ∨ c.isSingle))
    ⟨fun h => ⟨h.1, h.2⟩, fun h => ⟨h.nonempty, h.joined⟩⟩

/-- The tree of a clause that has literals. -/
def tree (c : Clause) : Formula :=
  match c.literals with
  | [] => default
  | first :: rest => .joinAll c.connective first.toFormula (rest.map Literal.toFormula)

theorem toFormula_eq_tree {c : Clause} (h : c.literals ≠ []) : c.toFormula = .ok c.tree := by
  obtain ⟨literals, op⟩ := c
  cases literals with
  | nil => exact absurd rfl h
  | cons first rest => rfl

theorem leaves_tree {c : Clause} (h : c.literals ≠ []) : c.tree.leaves = c.names := by
  obtain ⟨literals, op⟩ := c
  cases literals with
  | nil => exact absurd rfl h
  | cons first rest =>
      rw [tree, Formula.leaves_joinAll, Literal.leaves_toFormula, List.flatMap_map, names,
        List.map_cons, List.map_eq_flatMap]
      simp

/-- The tree of a proper clause has its meaning. -/
theorem Proper.meaning_tree {c : Clause} (h : c.Proper) (v : String → Bool) :
    c.tree.meaning v = c.meaning v := by
  obtain ⟨literals, op⟩ := c
  cases literals with
  | nil => exact absurd rfl h.nonempty
  | cons first rest =>
      have hliterals : (first.toFormula :: rest.map Literal.toFormula).map (Formula.meaning v) =
          (first :: rest).map (Literal.meaning v) := by
        simp [Function.comp_def]
      rcases h.joined with hop | hop | hsingle
      · obtain rfl : op = .and := hop
        rw [tree, Formula.meaning_joinAll_and, hliterals]
        rfl
      · obtain rfl : op = .or := hop
        rw [tree, Formula.meaning_joinAll_or, hliterals]
        rfl
      · have hrest : rest = [] := by simpa [isSingle] using hsingle
        subst hrest
        rw [tree, meaning]
        simp [Formula.joinAll]

end Clause

namespace NormalForm

/-- A form with clauses that its tree agrees with. -/
structure Proper (form : NormalForm) : Prop where
  nonempty : form.clauses ≠ []
  proper : ∀ c ∈ form.clauses, c.Proper

instance (form : NormalForm) : Decidable form.Proper :=
  decidable_of_iff (form.clauses ≠ [] ∧ ∀ c ∈ form.clauses, c.Proper)
    ⟨fun h => ⟨h.1, h.2⟩, fun h => ⟨h.nonempty, h.proper⟩⟩

/-- The tree of a form that has clauses. -/
def tree (form : NormalForm) : Formula :=
  match form.clauses with
  | [] => default
  | first :: rest => .joinAll form.kind.outer first.tree (rest.map Clause.tree)

theorem clauseFormulas_eq {clauses : List Clause} (h : ∀ c ∈ clauses, c.Proper) :
    clauseFormulas clauses = .ok (clauses.map Clause.tree) := by
  induction clauses with
  | nil => rfl
  | cons c rest ih =>
      have hc := Clause.toFormula_eq_tree (h c (List.mem_cons_self ..)).nonempty
      rw [clauseFormulas, hc, ih fun d hd => h d (List.mem_cons_of_mem c hd)]
      rfl

theorem Proper.toFormula_eq_tree {form : NormalForm} (h : form.Proper) :
    form.toFormula = .ok form.tree := by
  obtain ⟨kind, clauses⟩ := form
  have hclauses := clauseFormulas_eq h.proper
  cases clauses with
  | nil => exact absurd rfl h.nonempty
  | cons first rest =>
      simp only [toFormula, hclauses, List.map_cons, tree]

theorem Proper.leaves_tree {form : NormalForm} (h : form.Proper) :
    form.tree.leaves = form.names := by
  obtain ⟨kind, clauses⟩ := form
  cases clauses with
  | nil => exact absurd rfl h.nonempty
  | cons first rest =>
      have hfirst := Clause.leaves_tree (h.proper first (List.mem_cons_self ..)).nonempty
      have hrest : (rest.map Clause.tree).map Formula.leaves = rest.map Clause.names := by
        rw [List.map_map]
        exact List.map_congr_left fun c hc =>
          Clause.leaves_tree (h.proper c (List.mem_cons_of_mem first hc)).nonempty
      rw [tree, Formula.leaves_joinAll, hfirst, List.flatMap_def, hrest, ← List.flatMap_def, names,
        List.flatMap_cons]

/-- The tree of a proper form has its meaning. -/
theorem Proper.meaning_tree {form : NormalForm} (h : form.Proper) (v : String → Bool) :
    form.tree.meaning v = form.meaning v := by
  obtain ⟨kind, clauses⟩ := form
  cases clauses with
  | nil => exact absurd rfl h.nonempty
  | cons first rest =>
      have hclauses : (first.tree :: rest.map Clause.tree).map (Formula.meaning v) =
          (first :: rest).map (Clause.meaning v) := by
        rw [← List.map_cons, List.map_map]
        exact List.map_congr_left fun c hc => (h.proper c hc).meaning_tree v
      cases kind with
      | disjunctive =>
          rw [tree, FormKind.outer, Formula.meaning_joinAll_or, hclauses]
          rfl
      | conjunctive =>
          rw [tree, FormKind.outer, Formula.meaning_joinAll_and, hclauses]
          rfl

/-- Evaluating the tree of a proper form has the outcome of evaluating the form. -/
theorem Proper.evaluate_tree {α : Type} [Truth α] {form : NormalForm} (h : form.Proper)
    (a : Assignment α) : form.tree.evaluate a = form.evaluate a := by
  rw [Formula.evaluate_eq, form.evaluate_eq, h.leaves_tree, h.meaning_tree]

end NormalForm

/-! ## Both ways of evaluating -/

/-- A proper form and its tree evaluate alike under every assignment: to one value if every name of
the form has a value, and otherwise to the fault of the first name without one, in the order of the
clauses and of the literals in them. -/
theorem form_and_tree_evaluate_alike {form : NormalForm} (h : form.Proper) :
    ∃ g, form.toFormula = .ok g ∧ ∀ (α : Type) [Truth α] (a : Assignment α),
      (∃ value, (∀ name ∈ form.names, a.Binds name) ∧
        form.evaluate a = .ok value ∧ g.evaluate a = .ok value) ∨
      ∃ name, a.FirstMissing form.names name ∧
        form.evaluate a = .error (.unboundVariable name) ∧
        g.evaluate a = .error (.unboundVariable name) := by
  refine ⟨form.tree, h.toFormula_eq_tree, ?_⟩
  intro α _ a
  rw [h.evaluate_tree, form.evaluate_eq]
  rcases a.binds_or_firstMissing form.names with hbinds | ⟨name, hmissing⟩
  · left
    have hread := Assignment.reading_of_binds hbinds (form.meaning a.value)
    exact ⟨form.meaning a.value, hbinds, hread, hread⟩
  · right
    have hread := Assignment.reading_of_firstMissing hmissing (form.meaning a.value)
    exact ⟨name, hmissing, hread, hread⟩

/-- The first clause decides a disjunction, and the second is false whatever `B` is worth; the form
and its tree miss `B` all the same, and come to one value where it has one. -/
theorem decided_form_and_tree_miss_name :
    let form : NormalForm := ⟨.disjunctive,
      [⟨[⟨"A", false⟩], .iff⟩, ⟨[⟨"A", true⟩, ⟨"B", false⟩, ⟨"B", true⟩], .and⟩,
        ⟨[⟨"C", true⟩, ⟨"A", false⟩], .or⟩]⟩
    ∃ g, form.toFormula = .ok g ∧
      form.evaluate (⟨[("A", true)]⟩ : Assignment Bool) = .error (.unboundVariable "B") ∧
      g.evaluate (⟨[("A", true)]⟩ : Assignment Bool) = .error (.unboundVariable "B") ∧
      g.evaluate ⟨[("A", Datum.number 0 2), ("B", .null), ("C", .text "no")]⟩ = .ok false := by
  intro form
  have hproper : form.Proper := by decide
  obtain ⟨g, hg, halike⟩ := form_and_tree_evaluate_alike hproper
  have hsame : ∀ (α : Type) [Truth α] (a : Assignment α), g.evaluate a = form.evaluate a := by
    intro α _ a
    rcases halike α a with ⟨value, -, hform, htree⟩ | ⟨name, -, hform, htree⟩
    · rw [hform, htree]
    · rw [hform, htree]
  refine ⟨g, hg, rfl, ?_, ?_⟩
  · rw [hsame]
    rfl
  · rw [hsame]
    rfl

end Sentential
