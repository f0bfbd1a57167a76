/-
# Sentential.Proofs.Analysis.Printing -- what the text of a canonical form tells

The text of a form that has clauses is read as the tree of the form, so it tells the tree, and with
it the variables of the formula and what the formula means; that is all that a canonical form
depends on. A form without clauses is written as a word, and the words for the two constants are
names as well. As a formula such a word is a variable, and the tree of a form is a variable only if
the form is a single clause of a single literal that is not negated. So one text can stand for two
forms, in this one way.
-/
import Sentential.Proofs.Analysis.Canonicity

namespace Sentential

/-! ## Trees that are variables -/

theorem Formula.joinAll_eq_var_iff {op : Connective} {first : Formula} {rest : List Formula}
    {name : String} : joinAll op first rest = .var name ↔ rest = [] ∧ first = .var name := by
  rcases List.eq_nil_or_concat rest with rfl | ⟨init, last, rfl⟩
  · simp [joinAll]
  · -- the outermost connective stands in front of the last formula
    simp [joinAll]

theorem Literal.toFormula_eq_var_iff {l : Literal} {name : String} :
    l.toFormula = .var name ↔ l = ⟨name, false⟩ := by
  obtain ⟨name', negated⟩ := l
  cases negated <;> simp [toFormula]

theorem Clause.tree_eq_var_iff {c : Clause} (h : c.literals ≠ []) {name : String} :
    c.tree = .var name ↔ c.literals = [⟨name, false⟩] := by
  obtain ⟨literals, op⟩ := c
  cases literals with
  | nil => exact absurd rfl h
  | cons first rest =>
      rw [tree, Formula.joinAll_eq_var_iff, Literal.toFormula_eq_var_iff, List.map_eq_nil_iff,
        List.cons.injEq, and_comm]

namespace NormalForm

/-- The form is one clause of one literal, which is the name without a negation. -/
def IsLone (form : NormalForm) (name : String) : Prop :=
  form.clauses.map Clause.literals = [[⟨name, false⟩]]

variable {form : NormalForm} {symbols : Symbols} {name : String}

theorem Proper.tree_eq_var_iff (h : form.Proper) : form.tree = .var name ↔ form.IsLone name := by
  obtain ⟨kind, clauses⟩ := form
  cases clauses with
  | nil => exact absurd rfl h.nonempty
  | cons first rest =>
      have hliterals := (h.proper first (List.mem_cons_self ..)).nonempty
      rw [tree, Formula.joinAll_eq_var_iff, Clause.tree_eq_var_iff hliterals, IsLone,
        List.map_cons, List.cons.injEq, List.map_eq_nil_iff, List.map_eq_nil_iff, and_comm]

/-- Such a form is no constant. -/
theorem IsLone.constant?_eq (h : form.IsLone name) : form.constant? = none := by
  unfold constant? isConstant
  cases hclauses : form.clauses with
  | nil =>
      rw [IsLone, hclauses] at h
      exact absurd h (by simp)
  | cons c rest => rfl

theorem IsLone.render_eq (h : form.IsLone name) : form.render symbols = name := by
  have hconstant := h.constant?_eq
  obtain ⟨kind, clauses⟩ := form
  match clauses, h with
  | [⟨[l], op⟩], h =>
      obtain rfl : l = ⟨name, false⟩ := by simpa [IsLone] using h
      simp [render, hconstant, Clause.render, Clause.isSingle, Literal.render]

end NormalForm

/-! ## Texts -/

/-- A text of a whole formula makes no other formula. -/
theorem Written.unique {f g : Formula} {d e : Nat} {s : String} (hf : Written .whole f d s)
    (hg : Written .whole g e s) : f = g := by
  have hread := parse_of_written hf (max d e : Nat)
  have hread' := parse_of_written hg (max d e : Nat)
  rw [if_neg (by omega)] at hread hread'
  exact Except.ok.inj (hread.symm.trans hread')

/-- Both built-in sets write the constants with the same words. -/
theorem Symbols.constant_eq {symbols : Symbols} (h : symbols ∈ [Symbols.ascii, .unicode]) :
    symbols.constant true = "True" ∧ symbols.constant false = "False" := by
  simp only [List.mem_cons, List.not_mem_nil, or_false] at h
  rcases h with rfl | rfl <;> exact ⟨rfl, rfl⟩

/-- The words for the constants are names. -/
theorem Symbols.isName_constant {symbols : Symbols} (h : symbols ∈ [Symbols.ascii, .unicode])
    (value : Bool) : IsName (symbols.constant value) := by
  obtain ⟨htrue, hfalse⟩ := constant_eq h
  cases value with
  | true =>
      rw [htrue]
      exact ⟨'T', _, rfl, rfl, List.all_eq_true.mp rfl⟩
  | false =>
      rw [hfalse]
      exact ⟨'F', _, rfl, rfl, List.all_eq_true.mp rfl⟩

namespace Formula

variable {f g : Formula} {symbols : Symbols}

/-- The text of a canonical form that has clauses is a formula, the tree of the form. -/
theorem written_canonicalForm (hsymbols : symbols ∈ [Symbols.ascii, .unicode])
    (hnames : ∀ name ∈ f.leaves, IsName name) {kind : FormKind}
    (hclauses : (f.canonicalForm kind).clauses ≠ []) :
    ∃ d, Written .whole (f.canonicalForm kind).tree d ((f.canonicalForm kind).render symbols) := by
  have hform := isCanonicalForm kind f
  obtain ⟨d, -, hwritten⟩ := (hform.proper hclauses).written (Symbols.readable hsymbols)
    fun name hname => hnames name ((hform.mem_names hclauses).mp hname)
  exact ⟨d, hwritten⟩

/-- The tree of a canonical form tells the form. -/
theorem canonicalForm_eq_of_tree {kind : FormKind} (hf : (f.canonicalForm kind).clauses ≠ [])
    (hg : (g.canonicalForm kind).clauses ≠ [])
    (h : (f.canonicalForm kind).tree = (g.canonicalForm kind).tree) :
    f.canonicalForm kind = g.canonicalForm kind := by
  have hform := isCanonicalForm kind f
  have hform' := isCanonicalForm kind g
  refine (canonicalForm_eq_iff kind).mpr (.inl (table_eq_iff.mpr (sameFunction_iff.mpr ⟨?_, ?_⟩)))
  · rw [← hform.vars_tree hf, h, hform'.vars_tree hg]
  · intro v
    rw [← hform.meaning_tree hf, h, hform'.meaning_tree hg]

theorem render_of_clauses_eq_nil {kind : FormKind} (h : (f.canonicalForm kind).clauses = []) :
    (f.canonicalForm kind).render symbols = symbols.constant kind.unit := by
  rw [canonicalForm_of_nil h]
  rfl

/-- A form that has clauses is written like the constant only if it is its name. -/
theorem render_eq_constant_iff (hsymbols : symbols ∈ [Symbols.ascii, .unicode])
    (hnames : ∀ name ∈ f.leaves, IsName name) {kind : FormKind}
    (hclauses : (f.canonicalForm kind).clauses ≠ []) (value : Bool) :
    (f.canonicalForm kind).render symbols = symbols.constant value ↔
      (f.canonicalForm kind).IsLone (symbols.constant value) := by
  refine ⟨?_, NormalForm.IsLone.render_eq⟩
  intro htext
  obtain ⟨d, hwritten⟩ := written_canonicalForm hsymbols hnames hclauses
  have hword : Written .whole (.var (symbols.constant value)) 0 (symbols.constant value) :=
    (Written.name (Symbols.isName_constant hsymbols value)).loosen (by decide)
  rw [htext] at hwritten
  have htree := hwritten.unique hword
  exact ((isCanonicalForm kind f).proper hclauses).tree_eq_var_iff.mp htree

/-- The canonical forms of a kind are written alike if they are one form, and otherwise only if one
is the constant of the kind and the other is the name that the constant is written as. -/
theorem render_canonicalForm_eq_iff (hsymbols : symbols ∈ [Symbols.ascii, .unicode])
    (hf : ∀ name ∈ f.leaves, IsName name) (hg : ∀ name ∈ g.leaves, IsName name) (kind : FormKind) :
    (f.canonicalForm kind).render symbols = (g.canonicalForm kind).render symbols ↔
      f.canonicalForm kind = g.canonicalForm kind ∨
        (f.canonicalForm kind).constant? = some kind.unit ∧
          (g.canonicalForm kind).IsLone (symbols.constant kind.unit) ∨
        (g.canonicalForm kind).constant? = some kind.unit ∧
          (f.canonicalForm kind).IsLone (symbols.constant kind.unit) := by
  have hconstant : ∀ h : Formula, (h.canonicalForm kind).constant? = some kind.unit ↔
      (h.canonicalForm kind).clauses = [] := fun h => h.table.constant?_form_iff kind
  rw [hconstant, hconstant]
  constructor
  · intro htext
    by_cases hnil : (f.canonicalForm kind).clauses = []
    · by_cases hnil' : (g.canonicalForm kind).clauses = []
      · left
        rw [canonicalForm_of_nil hnil, canonicalForm_of_nil hnil']
      · rw [render_of_clauses_eq_nil hnil] at htext
        exact .inr (.inl ⟨hnil, (render_eq_constant_iff hsymbols hg hnil' _).mp htext.symm⟩)
    · by_cases hnil' : (g.canonicalForm kind).clauses = []
      · rw [render_of_clauses_eq_nil hnil'] at htext
        exact .inr (.inr ⟨hnil', (render_eq_constant_iff hsymbols hf hnil _).mp htext⟩)
      · obtain ⟨d, hwritten⟩ := written_canonicalForm hsymbols hf hnil
        obtain ⟨e, hwritten'⟩ := written_canonicalForm hsymbols hg hnil'
        rw [htext] at hwritten
        exact .inl (canonicalForm_eq_of_tree hnil hnil' (hwritten.unique hwritten'))
  · rintro (hsame | ⟨hnil, hlone⟩ | ⟨hnil, hlone⟩)
    · rw [hsame]
    · rw [render_of_clauses_eq_nil hnil, hlone.render_eq]
    · rw [render_of_clauses_eq_nil hnil, hlone.render_eq]

end Formula

/-! ## Two analyses -/

namespace Analysis

/-- The text of a canonical form tells which form it is, but that a constant is written like the
form of a variable with the name of the constant. -/
theorem written_forms_tell_forms_apart {source₁ source₂ : Source}
    {maxVariables₁ maxVariables₂ maxDepth₁ maxDepth₂ : Limit} {r₁ r₂ : Analysis}
    (h₁ : (run source₁ maxVariables₁ maxDepth₁).outcome = .ok r₁)
    (h₂ : (run source₂ maxVariables₂ maxDepth₂).outcome = .ok r₂) :
    ∀ symbols ∈ [Symbols.ascii, .unicode],
      (r₁.cnf.render symbols = r₂.cnf.render symbols ↔
        r₁.cnf = r₂.cnf ∨ r₁.cnf.constant? = some true ∧ r₂.cnf.IsLone "True" ∨
          r₂.cnf.constant? = some true ∧ r₁.cnf.IsLone "True") ∧
      (r₁.dnf.render symbols = r₂.dnf.render symbols ↔
        r₁.dnf = r₂.dnf ∨ r₁.dnf.constant? = some false ∧ r₂.dnf.IsLone "False" ∨
          r₂.dnf.constant? = some false ∧ r₁.dnf.IsLone "False") := by
  obtain ⟨f, hf, -, rfl⟩ := run_eq_ok_iff.mp h₁
  obtain ⟨g, hg, -, rfl⟩ := run_eq_ok_iff.mp h₂
  intro symbols hsymbols
  obtain ⟨htrue, hfalse⟩ := Symbols.constant_eq hsymbols
  rw [← htrue, ← hfalse]
  have hforms := Formula.render_canonicalForm_eq_iff hsymbols (isName_of_parse hf)
    (isName_of_parse hg)
  -- what an analysis holds are the canonical forms of its formula
  exact ⟨hforms .conjunctive, hforms .disjunctive⟩

/-- The conjunctive form of a variable of that name is written like the one of a tautology. -/
theorem variable_is_written_like_tautology :
    ∃ r₁ r₂, (run (some "A | ~A") (16 : Int) (200 : Int)).outcome = .ok r₁ ∧
      (run (some "True") (16 : Int) (200 : Int)).outcome = .ok r₂ ∧ r₁.cnf ≠ r₂.cnf ∧
      r₁.cnf.render .unicode = r₂.cnf.render .unicode := by
  let f : Formula := .binary .or (.var "A") (.neg (.var "A"))
  let g : Formula := .var "True"
  have h₁ : (run (some "A | ~A") (16 : Int) (200 : Int)).outcome =
      .ok (complete (some "A | ~A") f) := by
    refine run_eq_ok_iff.mpr ⟨f, rfl, ?_, rfl⟩
    rw [f.length_vars]
    rfl
  have h₂ : (run (some "True") (16 : Int) (200 : Int)).outcome =
      .ok (complete (some "True") g) := by
    refine run_eq_ok_iff.mpr ⟨g, rfl, ?_, rfl⟩
    rw [g.length_vars]
    rfl
  have hf : f.Constantly true := by
    apply Formula.constantly_iff.mpr
    intro v
    exact Bool.or_not_self (v "A")
  have hclauses : (f.canonicalForm .conjunctive).clauses = [] :=
    Formula.clauses_canonicalForm_eq_nil_iff.mpr hf
  have hconstant : (complete (some "A | ~A") f).cnf.constant? = some true :=
    (f.table.constant?_form_iff .conjunctive).mpr hclauses
  have hvars : g.vars = ["True"] := by
    refine Formula.vars_eq_of_ascending (by decide) ?_
    intro name
    rfl
  have hlone : (complete (some "True") g).cnf.IsLone "True" := by
    rw [complete, hvars]
    rfl
  obtain ⟨hcnf, -⟩ := written_forms_tell_forms_apart h₁ h₂ .unicode (by simp)
  refine ⟨_, _, h₁, h₂, ?_, hcnf.mpr (.inr (.inl ⟨hconstant, hlone⟩))⟩
  intro hsame
  rw [hsame, hlone.constant?_eq] at hconstant
  exact absurd hconstant (by simp)

end Analysis

end Sentential
