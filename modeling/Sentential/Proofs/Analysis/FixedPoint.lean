/-
# Sentential.Proofs.Analysis.FixedPoint -- analysing the text of a form again

Every clause of a canonical form names every variable, in the order of the columns, so the tree of a
form that has a clause has the variables of the formula that it came from; and it has the meaning of
that formula. An analysis depends on a formula through its variables and its meaning only. So the
text of either form, which is read as the tree of the form, has the analysis that it was made by.
-/
import Sentential.Proofs.Analysis.Outcome
import Sentential.Proofs.NormalForm.Text

namespace Sentential

/-! ## Names -/

/-- The names of a formula that was read are names. -/
theorem isName_of_parse {source : Source} {limit : Limit} {f : Formula}
    (h : (parse source limit).outcome = .ok f) : ∀ name ∈ f.leaves, IsName name := by
  obtain ⟨text, d, -, hscan, hf⟩ := derives_of_parse h
  intro name hname
  obtain ⟨t, ht, hkind, rfl⟩ := hf.exists_token name hname
  have hspells := (cut_of_scan hscan).spells t ht
  rw [hkind] at hspells
  exact hspells

/-! ## The tree of a canonical form -/

/-- A table depends on the meaning of the formula and not on its shape. -/
theorem TruthTable.complete_congr {f g : Formula} (h : ∀ v, f.meaning v = g.meaning v)
    (columns : List String) : complete f columns = complete g columns := by
  unfold complete
  simp only [h]

namespace Formula

/-- The form is one of the two of the table over the variables of the formula. -/
def IsCanonicalForm (f : Formula) (form : NormalForm) : Prop :=
  form.DerivedFrom f.vars (TruthTable.complete f f.vars).rows

namespace IsCanonicalForm

variable {f : Formula} {form : NormalForm}

theorem proper (h : f.IsCanonicalForm form) (hclauses : form.clauses ≠ []) : form.Proper := by
  have hlength : ∀ row ∈ (TruthTable.complete f f.vars).rows,
      row.values.length = f.vars.length := fun _ => NormalForm.length_of_mem_complete
  exact NormalForm.DerivedFrom.proper h hlength f.vars_ne_nil hclauses

theorem mem_names (h : f.IsCanonicalForm form) (hclauses : form.clauses ≠ []) {name : String} :
    name ∈ form.names ↔ name ∈ f.leaves := by
  rw [NormalForm.DerivedFrom.mem_names h (fun _ => NormalForm.length_of_mem_complete) hclauses,
    mem_vars]

/-- The tree of a form has the variables of the formula. -/
theorem vars_tree (h : f.IsCanonicalForm form) (hclauses : form.clauses ≠ []) :
    form.tree.vars = f.vars := by
  refine vars_eq_of_ascending f.vars_ascending ?_
  intro name
  rw [(h.proper hclauses).leaves_tree, h.mem_names hclauses, mem_vars]

/-- The tree of a form means what the formula means. -/
theorem meaning_tree (h : f.IsCanonicalForm form) (hclauses : form.clauses ≠ [])
    (v : String → Bool) : form.tree.meaning v = f.meaning v := by
  rw [(h.proper hclauses).meaning_tree]
  exact NormalForm.DerivedFrom.meaning_eq h (fun _ hname => mem_vars.mpr hname) v

/-- Only the text and the tree tell the analysis of a form from that of the formula. -/
theorem complete_tree (h : f.IsCanonicalForm form) (hclauses : form.clauses ≠ [])
    (source text : Source) :
    Analysis.complete text form.tree =
      { Analysis.complete source f with source := text, formula := form.tree } := by
  have htable : TruthTable.complete form.tree f.vars = TruthTable.complete f f.vars :=
    TruthTable.complete_congr (h.meaning_tree hclauses) f.vars
  simp only [Analysis.complete, h.vars_tree hclauses, htable]

end IsCanonicalForm

end Formula

/-! ## The fixed point -/

/-- The text of a canonical form that has clauses is analysed as the formula was: it is read as the
tree of the form, within any depth from two on, and has the same variables, the same table and the
same forms. -/
theorem canonical_text_is_fixed_point {source : Source} {maxVariables maxDepth : Limit}
    {result : Analysis} (h : (Analysis.run source maxVariables maxDepth).outcome = .ok result) :
    ∀ form ∈ [result.dnf, result.cnf], ¬ form.isConstant →
      ∀ symbols ∈ [Symbols.ascii, Symbols.unicode], ∀ depth : Int, 2 ≤ depth →
        ∃ g, form.toFormula = .ok g ∧
          (Analysis.run (some (form.render symbols)) maxVariables depth).outcome =
            .ok { result with source := some (form.render symbols), formula := g } := by
  obtain ⟨f, hparse, hcheck, rfl⟩ := Analysis.run_eq_ok_iff.mp h
  intro form hmem hconstant symbols hsymbols depth hdepth
  have hform : f.IsCanonicalForm form := NormalForm.derivedFrom_of_mem hmem
  have hclauses : form.clauses ≠ [] := by
    intro hnil
    exact hconstant (List.isEmpty_iff.mpr hnil)
  have hproper := hform.proper hclauses
  have hnames : ∀ name ∈ form.names, IsName name := by
    intro name hname
    exact isName_of_parse hparse name ((hform.mem_names hclauses).mp hname)
  have hread : (parse (some (form.render symbols)) depth).outcome = .ok form.tree := by
    obtain ⟨d, hd, hwritten⟩ := hproper.written (Symbols.readable hsymbols) hnames
    rw [parse_of_written hwritten, if_neg (by omega)]
  refine ⟨form.tree, hproper.toFormula_eq_tree, ?_⟩
  apply Analysis.run_eq_ok_iff.mpr
  refine ⟨form.tree, hread, ?_, ?_⟩
  · -- there are as many variables as before
    rw [hform.vars_tree hclauses]
    exact hcheck
  · exact (hform.complete_tree hclauses source _).symm

/-- An implication, its conjunctive form in the logical glyphs, and the analysis of that. -/
theorem conjunctive_text_of_implication :
    ∃ result g, (Analysis.run (some "A -> B") (16 : Int) (200 : Int)).outcome = .ok result ∧
      result.cnf.render .unicode = "(¬A ∨ B)" ∧ result.cnf.toFormula = .ok g ∧
      (Analysis.run (some "(¬A ∨ B)") (16 : Int) (2 : Int)).outcome =
        .ok { result with source := some "(¬A ∨ B)", formula := g } := by
  let f : Formula := .binary .implies (.var "A") (.var "B")
  have hparse : (parse (some "A -> B") (200 : Int)).outcome = .ok f := rfl
  have hvars : f.vars = ["A", "B"] := by
    refine Formula.vars_eq_of_ascending (by decide) ?_
    intro name
    rfl
  have hcheck : Limit.check f.vars.length (TruthTable.excess f.vars.length) (16 : Int) =
      .ok () := by
    rw [hvars]
    rfl
  have hcnf : (Analysis.complete (some "A -> B") f).cnf =
      ⟨.conjunctive, [⟨[⟨"A", true⟩, ⟨"B", false⟩], .or⟩]⟩ := by
    rw [Analysis.complete, hvars]
    decide
  have hrender : (Analysis.complete (some "A -> B") f).cnf.render .unicode = "(¬A ∨ B)" := by
    rw [hcnf]
    decide
  have hrun : (Analysis.run (some "A -> B") (16 : Int) (200 : Int)).outcome =
      .ok (Analysis.complete (some "A -> B") f) :=
    Analysis.run_eq_ok_iff.mpr ⟨f, hparse, hcheck, rfl⟩
  obtain ⟨g, hg, hagain⟩ := canonical_text_is_fixed_point hrun
    (Analysis.complete (some "A -> B") f).cnf (by simp) (by rw [hcnf]; decide) .unicode (by simp)
    2 (by decide)
  rw [hrender] at hagain
  exact ⟨_, g, hrun, hrender, hg, hagain⟩

end Sentential
