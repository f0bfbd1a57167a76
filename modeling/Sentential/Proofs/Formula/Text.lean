/-
# Sentential.Proofs.Formula.Text -- the text of a formula is read as the formula

A formula is written with parentheses around every connective, so that its text is a negation or
something tighter wherever it stands and needs no rule of precedence to be read. Every node but a
leaf encloses what is below it once more: the text is nested as deeply as the longest path has nodes
above its leaf, one less than the height. A chain of connectives is flat as people write it and deep
as it is written here, and a limit on the depth can refuse the text of a formula that it would let
pass in another.
-/
import Sentential.Formula.Rendering
import Sentential.Proofs.Parser.Writing

namespace Sentential

theorem Symbols.joiner_ascii (op : Connective) : ascii.joiner op = " " ++ op.sign ++ " " := by
  cases op <;> rfl

namespace Formula

/-! ## Texts by recursion -/

/-- The text of a formula, read off the tree. -/
def spelled (symbols : Symbols) : Formula → String
  | .var name => name
  | .neg f => symbols.negation ++ f.spelled symbols
  | .binary op l r => "(" ++ l.spelled symbols ++ symbols.joiner op ++ r.spelled symbols ++ ")"

/-- The fold that writes a formula never fails, and writes what recursion writes. -/
theorem render_eq (symbols : Symbols) (f : Formula) :
    f.render symbols = .ok (f.spelled symbols) := by
  rw [render, postorder_eq_nodes, Fold.run_nodes]
  induction f with
  | var name => rfl
  | neg f ih =>
      rw [Fold.onTree, ih]
      rfl
  | binary op l r ihl ihr =>
      rw [Fold.onTree, ihl, ihr]
      rfl

/-- The plain text is the text in the ASCII symbols. -/
theorem plainText_eq_render (f : Formula) : f.plainText = f.render .ascii := by
  have hfolds : plainly = rendering .ascii := by
    unfold plainly rendering
    congr 1
    funext op left right
    rw [Symbols.joiner_ascii]
    simp only [String.append_assoc]
  rw [plainText, render, hfolds]

/-! ## Reading back -/

/-- The text of a formula can stand wherever a negation can, and is one less deep than the formula
is high. -/
theorem written_spelled {symbols : Symbols} (hsymbols : symbols.Readable) {f : Formula}
    (hnames : ∀ name ∈ f.leaves, IsName name) :
    Written .negated f (f.height - 1) (f.spelled symbols) := by
  induction f with
  | var name =>
      have hname := hnames name (List.mem_singleton_self name)
      exact (Written.name hname).loosen (by decide)
  | neg f ih =>
      have hdepth : (neg f).height - 1 = f.height - 1 + 1 := by
        have hpos := f.height_pos
        rw [height]
        omega
      rw [hdepth]
      exact (ih hnames).negation hsymbols
  | binary op l r ihl ihr =>
      have hdepth : (binary op l r).height - 1 = max (l.height - 1) (r.height - 1) + 1 := by
        have hl := l.height_pos
        have hr := r.height_pos
        rw [height]
        omega
      have hleft : Written (.joined op) l (l.height - 1) (l.spelled symbols) := by
        refine (ihl fun name hname => hnames name (List.mem_append_left _ hname)).loosen ?_
        exact Nat.le_of_lt op.tightness_lt
      have hright : Written (.within op) r (r.height - 1) (r.spelled symbols) := by
        refine (ihr fun name hname => hnames name (List.mem_append_right _ hname)).loosen ?_
        rw [Category.tightness_within]
        exact op.tightness_lt
      have hwhole : Written .whole (binary op l r) (max (l.height - 1) (r.height - 1)) _ :=
        (hleft.join hsymbols hright).loosen (Nat.zero_le _)
      have htext : spelled symbols (binary op l r) =
          "(" ++ (l.spelled symbols ++ symbols.joiner op ++ r.spelled symbols) ++ ")" := by
        rw [spelled]
        simp only [String.append_assoc]
      rw [hdepth, htext]
      exact hwhole.group.loosen (by decide)

end Formula

/-- The text of a formula is read as the formula if the limit on the depth is not below the height
less one, and is otherwise refused as that deep; and the plain text is the text in the ASCII
symbols. -/
theorem text_is_read_as_formula {f : Formula} (hnames : ∀ name ∈ f.leaves, IsName name) :
    (∀ symbols ∈ [Symbols.ascii, Symbols.unicode], ∃ text, f.render symbols = .ok text ∧
      ∀ limit : Int, (parse (some text) limit).outcome =
        if (f.walkedHeight : Int) - 1 ≤ limit then .ok f
        else .error (.nestedTooDeep (f.walkedHeight - 1) limit)) ∧
    f.plainText = f.render .ascii := by
  refine ⟨?_, f.plainText_eq_render⟩
  intro symbols hsymbols
  refine ⟨f.spelled symbols, f.render_eq symbols, ?_⟩
  intro limit
  have hwritten : Written .whole f (f.height - 1) (f.spelled symbols) :=
    (Formula.written_spelled (Symbols.readable hsymbols) hnames).loosen (by decide)
  have hpos := f.height_pos
  rw [parse_of_written hwritten, Formula.walkedHeight_eq_height]
  by_cases hlimit : limit < ((f.height - 1 : Nat) : Int)
  · rw [if_pos hlimit, if_neg (by omega)]
  · rw [if_neg hlimit, if_pos (by omega)]

/-- A conjunction with a negation in it is two deep in the logical glyphs. -/
theorem conjunction_is_read_from_depth_two :
    let f : Formula := .binary .and (.var "A_1") (.neg (.var "B"))
    f.render .unicode = .ok "(A_1 ∧ ¬B)" ∧
    (parse (some "(A_1 ∧ ¬B)") (2 : Int)).outcome = .ok f ∧
    (parse (some "(A_1 ∧ ¬B)") (1 : Int)).outcome = .error (.nestedTooDeep 2 1) := by
  intro f
  have hnames : ∀ name ∈ f.leaves, IsName name := by
    show ∀ name ∈ ["A_1", "B"], IsName name
    simp only [List.forall_mem_cons, List.not_mem_nil, false_implies, implies_true, and_true]
    have hfirst : IsName "A_1" := ⟨'A', ['_', '1'], rfl, rfl, List.all_eq_true.mp rfl⟩
    have hsecond : IsName "B" := ⟨'B', [], rfl, rfl, List.all_eq_true.mp rfl⟩
    exact ⟨hfirst, hsecond⟩
  have htext : f.render .unicode = .ok "(A_1 ∧ ¬B)" := f.render_eq .unicode
  have hheight : f.walkedHeight = 3 := f.walkedHeight_eq_height
  obtain ⟨text, hrender, hread⟩ := (text_is_read_as_formula hnames).1 .unicode (by simp)
  obtain rfl : text = "(A_1 ∧ ¬B)" := Except.ok.inj (hrender.symm.trans htext)
  rw [hheight] at hread
  exact ⟨htext, hread 2, hread 1⟩

end Sentential
