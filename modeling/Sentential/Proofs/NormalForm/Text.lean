/-
# Sentential.Proofs.NormalForm.Text -- the text of a form is read as its tree

A literal can stand beside any connective and needs no parentheses. So a clause of one literal needs
none either, and a clause of several literals is a group. The text of a proper form whose names are
names is therefore read as its tree; it is never nested deeper than two, which is a negation inside
of a group, whatever the number of clauses.
-/
import Sentential.Proofs.NormalForm.Meaning
import Sentential.Proofs.Parser.Writing

namespace Sentential

variable {symbols : Symbols}

/-! ## Chains of operands -/

/-- Texts joined by one connective make the formulas joined by it, and are no deeper than the
deepest of them. -/
theorem Written.joinAll (hsymbols : symbols.Readable) {op : Connective} {bound : Nat} {α : Type}
    {formula : α → Formula} {text : α → String} {rest : List α}
    (hrest : ∀ x ∈ rest, ∃ d ≤ bound, Written (.within op) (formula x) d (text x))
    {first : Formula} {s : String} (hfirst : ∃ d ≤ bound, Written (.joined op) first d s) :
    ∃ d ≤ bound, Written (.joined op) (.joinAll op first (rest.map formula)) d
      (.intercalate (symbols.joiner op) (s :: rest.map text)) := by
  -- the chain grows to the right, and all of it so far is the left operand of what comes next
  induction rest generalizing first s with
  | nil =>
      rw [List.map_nil, List.map_nil, String.intercalate_singleton]
      exact hfirst
  | cons x rest ih =>
      obtain ⟨d, hd, hs⟩ := hfirst
      obtain ⟨e, he, hx⟩ := hrest x (List.mem_cons_self ..)
      have hjoined : ∃ d ≤ bound, Written (.joined op) (.binary op first (formula x)) d
          (s ++ symbols.joiner op ++ text x) :=
        ⟨max d e, Nat.max_le.mpr ⟨hd, he⟩, hs.join hsymbols hx⟩
      have htail := ih (fun y hy => hrest y (List.mem_cons_of_mem x hy)) hjoined
      rw [String.intercalate_cons_append] at htail
      rw [List.map_cons, List.map_cons, String.intercalate_cons_cons]
      exact htail

/-! ## Literals and clauses -/

theorem Literal.written (hsymbols : symbols.Readable) {l : Literal} (h : IsName l.name) :
    ∃ d ≤ 1, Written .negated l.toFormula d (l.render symbols) := by
  have hname : Written .negated (.var l.name) 0 l.name := (Written.name h).loosen (by decide)
  unfold toFormula render
  split
  · exact ⟨1, Nat.le_refl 1, hname.negation hsymbols⟩
  · exact ⟨0, Nat.zero_le 1, hname⟩

namespace Clause

theorem joiner_eq {c : Clause} (h : c.connective = .and ∨ c.connective = .or) :
    c.joiner symbols = symbols.joiner c.connective := by
  unfold joiner
  rcases h with h | h <;> rw [h] <;> rfl

/-- What can stand beside a connective. -/
theorem tightness_within_le (op : Connective) :
    (Category.within op).tightness ≤ Category.negated.tightness := by
  rw [Category.tightness_within]
  exact op.tightness_lt

/-- The literals of a clause make a chain of its connective. -/
theorem written_chain (hsymbols : symbols.Readable) {first : Literal} {rest : List Literal}
    (op : Connective) (hnames : ∀ l ∈ first :: rest, IsName l.name) :
    ∃ d ≤ 1, Written (.joined op) (tree ⟨first :: rest, op⟩) d
      (.intercalate (symbols.joiner op) ((first :: rest).map (Literal.render symbols))) := by
  obtain ⟨d, hd, hfirst⟩ := Literal.written hsymbols (hnames first (List.mem_cons_self ..))
  have hrest : ∀ l ∈ rest, ∃ d ≤ 1, Written (.within op) l.toFormula d (l.render symbols) := by
    intro l hl
    obtain ⟨e, he, hl⟩ := Literal.written hsymbols (hnames l (List.mem_cons_of_mem first hl))
    exact ⟨e, he, hl.loosen (tightness_within_le op)⟩
  have hloose := op.tightness_lt
  exact Written.joinAll hsymbols hrest ⟨d, hd, hfirst.loosen (Nat.le_of_lt hloose)⟩

/-- A clause can stand wherever a negation can. -/
theorem written (hsymbols : symbols.Readable) {c : Clause} (h : c.Proper)
    (hnames : ∀ l ∈ c.literals, IsName l.name) :
    ∃ d ≤ 2, Written .negated c.tree d (c.render symbols) := by
  obtain ⟨literals, op⟩ := c
  match literals, h, hnames with
  | [], h, _ => exact absurd rfl h.nonempty
  | [l], _, hnames =>
      obtain ⟨d, hd, hl⟩ := Literal.written hsymbols (hnames l (List.mem_singleton_self l))
      have hrender : render symbols ⟨[l], op⟩ = l.render symbols := by
        simp [render, isSingle]
      rw [hrender]
      exact ⟨d, by omega, hl⟩
  | first :: second :: rest, h, hnames =>
      have hop : op = .and ∨ op = .or := by
        rcases h.joined with hop | hop | hsingle
        · exact .inl hop
        · exact .inr hop
        · exact absurd hsingle (by simp [isSingle])
      have hrender : render symbols ⟨first :: second :: rest, op⟩ = "(" ++ .intercalate
          (symbols.joiner op) ((first :: second :: rest).map (Literal.render symbols)) ++ ")" := by
        rw [render, joiner_eq hop]
        simp [isSingle]
      obtain ⟨d, hd, hchain⟩ := written_chain hsymbols op hnames
      have hwhole : Written .whole (tree ⟨first :: second :: rest, op⟩) d _ :=
        hchain.loosen (Nat.zero_le _)
      rw [hrender]
      exact ⟨d + 1, by omega, hwhole.group.loosen (by decide)⟩

end Clause

/-! ## Forms -/

namespace NormalForm

theorem render_of_ne_nil {form : NormalForm} (h : form.clauses ≠ []) :
    form.render symbols = .intercalate (symbols.joiner form.kind.outer)
      (form.clauses.map (Clause.render symbols)) := by
  have hconstant : form.isConstant = false := by
    rw [isConstant, List.isEmpty_eq_false_iff]
    exact h
  simp [render, constant?, hconstant]

/-- The text of a proper form is a formula of depth two at most, and its tree is that formula. -/
theorem Proper.written (hsymbols : symbols.Readable) {form : NormalForm} (h : form.Proper)
    (hnames : ∀ name ∈ form.names, IsName name) :
    ∃ d ≤ 2, Written .whole form.tree d (form.render symbols) := by
  rw [render_of_ne_nil h.nonempty]
  obtain ⟨kind, clauses⟩ := form
  have hclauses : ∀ c ∈ clauses, ∃ d ≤ 2, Written .negated c.tree d (c.render symbols) := by
    intro c hc
    refine Clause.written hsymbols (h.proper c hc) ?_
    intro l hl
    exact hnames l.name (List.mem_flatMap.mpr ⟨c, hc, List.mem_map_of_mem hl⟩)
  cases clauses with
  | nil => exact absurd rfl h.nonempty
  | cons first rest =>
      obtain ⟨d, hd, hfirst⟩ := hclauses first (List.mem_cons_self ..)
      have hrest : ∀ c ∈ rest,
          ∃ d ≤ 2, Written (.within kind.outer) c.tree d (c.render symbols) := by
        intro c hc
        obtain ⟨e, he, hc⟩ := hclauses c (List.mem_cons_of_mem first hc)
        exact ⟨e, he, hc.loosen (Clause.tightness_within_le kind.outer)⟩
      have hloose := kind.outer.tightness_lt
      obtain ⟨e, he, hchain⟩ := Written.joinAll hsymbols hrest
        ⟨d, hd, hfirst.loosen (Nat.le_of_lt hloose)⟩
      exact ⟨e, he, hchain.loosen (Nat.zero_le _)⟩

/-- The text of a proper form is read as its tree within any depth from two on. -/
theorem Proper.parse_render (hsymbols : symbols.Readable) {form : NormalForm} (h : form.Proper)
    (hnames : ∀ name ∈ form.names, IsName name) {limit : Int} (hlimit : 2 ≤ limit) :
    (parse (some (form.render symbols)) limit).outcome = .ok form.tree := by
  obtain ⟨d, hd, hwritten⟩ := h.written hsymbols hnames
  rw [parse_of_written hwritten, if_neg (by omega)]

end NormalForm

/-! ## Reading a form -/

/-- A form whose clauses have literals, each clause of several being a conjunction or a disjunction,
has a tree; and its text in either of the built-in symbol sets is read as this tree within any depth
from two on. The connectives of the clauses need not fit the kind of the form. -/
theorem form_text_is_read_as_its_tree {form : NormalForm} (h : form.Proper)
    (hnames : ∀ name ∈ form.names, IsName name) :
    ∃ g, form.toFormula = .ok g ∧
      ∀ symbols ∈ [Symbols.ascii, Symbols.unicode], ∀ limit : Int, 2 ≤ limit →
        (parse (some (form.render symbols)) limit).outcome = .ok g := by
  refine ⟨form.tree, h.toFormula_eq_tree, ?_⟩
  intro symbols hsymbols limit hlimit
  exact h.parse_render (Symbols.readable hsymbols) hnames hlimit

/-- A conjunction whose first clause is one too, whose second is a single literal under a connective
that is not its own, and whose third has a name twice. -/
theorem mixed_clauses_are_read_as_tree :
    let form : NormalForm := ⟨.conjunctive,
      [⟨[⟨"A", false⟩, ⟨"B", true⟩], .and⟩, ⟨[⟨"C_1", true⟩], .implies⟩,
        ⟨[⟨"A", false⟩, ⟨"A", true⟩, ⟨"B", false⟩], .or⟩]⟩
    ∃ g, form.toFormula = .ok g ∧ form.render .unicode = "(A ∧ ¬B) ∧ ¬C_1 ∧ (A ∨ ¬A ∨ B)" ∧
      (parse (some "(A ∧ ¬B) ∧ ¬C_1 ∧ (A ∨ ¬A ∨ B)") (2 : Int)).outcome = .ok g ∧
      (parse (some "(A & ~B) & ~C_1 & (A | ~A | B)") (2 : Int)).outcome = .ok g := by
  intro form
  have hproper : form.Proper := by decide
  have hnames : ∀ name ∈ form.names, IsName name := by decide
  have hunicode : form.render .unicode = "(A ∧ ¬B) ∧ ¬C_1 ∧ (A ∨ ¬A ∨ B)" := by decide
  have hascii : form.render .ascii = "(A & ~B) & ~C_1 & (A | ~A | B)" := by decide
  obtain ⟨g, hg, hread⟩ := form_text_is_read_as_its_tree hproper hnames
  refine ⟨g, hg, hunicode, ?_, ?_⟩
  · rw [← hunicode]
    exact hread .unicode (by simp) 2 (by decide)
  · rw [← hascii]
    exact hread .ascii (by simp) 2 (by decide)

end Sentential
