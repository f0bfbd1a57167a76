/-
# Sentential.Proofs.Parser.Writing -- texts that are read as a formula

`Written c f d s` says that the text `s` is of the category `c`, makes the formula `f` and is `d`
deep, wherever in a longer text it stands. All that is asked of the text behind it is that it does
not go on with a name, since then the last name of `s` would be a longer one. Each rule of the
grammar has its counterpart here, so a text put together as the grammar puts tokens together needs
no look at the scanner or the parser; and a text of the category of whole formulas is read as its
formula, unless it is nested too deep.
-/
import Sentential.Proofs.Grammar.Tightness
import Sentential.Proofs.Parser.Recognition
import Sentential.Symbols

namespace Sentential

/-! ## Symbols that are read back -/

/-- The spellings of the connectives are ones that the scanner knows, and blanks surround the binary
ones. -/
structure Symbols.Readable (symbols : Symbols) : Prop where
  negation : TokenKind.negation.Spells symbols.negation
  joiner : ∀ op, ∃ sign, (TokenKind.connective op).Spells sign ∧
    symbols.joiner op = " " ++ sign ++ " "

/-- Both built-in sets are read back. -/
theorem Symbols.readable {symbols : Symbols} (h : symbols ∈ [.ascii, .unicode]) :
    symbols.Readable := by
  simp only [List.mem_cons, List.not_mem_nil, or_false] at h
  rcases h with rfl | rfl
  · refine ⟨by simp [TokenKind.Spells, ascii], ?_⟩
    intro op
    refine ⟨op.sign, ?_, ?_⟩
    · cases op <;> simp [TokenKind.Spells, Connective.spellings, Connective.sign]
    · cases op <;> rfl
  · refine ⟨by simp [TokenKind.Spells, unicode], ?_⟩
    rintro (_ | _ | _ | _)
    · exact ⟨"∧", by simp [TokenKind.Spells, Connective.spellings], rfl⟩
    · exact ⟨"∨", by simp [TokenKind.Spells, Connective.spellings], rfl⟩
    · exact ⟨"->", by simp [TokenKind.Spells, Connective.spellings], rfl⟩
    · exact ⟨"<->", by simp [TokenKind.Spells, Connective.spellings], rfl⟩

/-! ## Texts of a category -/

/-- The text `s` is of category `c`, makes `f` and is `d` deep, wherever it stands. -/
def Written (c : Category) (f : Formula) (d : Nat) (s : String) : Prop :=
  ∀ p rest, EndsName rest →
    ∃ ts, Cut p (s.toList ++ rest) ts (p + s.length) rest ∧ Derives c ts f d

/-- A joiner between two texts is one token. -/
theorem cut_joiner {op : Connective} {sign joiner : String}
    (hsign : (TokenKind.connective op).Spells sign) (hjoiner : joiner = " " ++ sign ++ " ")
    (p : Nat) (rest : List Char) :
    Cut p (joiner.toList ++ rest) [⟨.connective op, sign, p + 1⟩] (p + joiner.length) rest := by
  have hblank : Text.isBlank ' ' := by decide
  have hplace : p + joiner.length = p + 1 + sign.length + 1 := by
    rw [hjoiner, String.length_append, String.length_append]
    show p + (1 + sign.length + 1) = _
    omega
  have htext : joiner.toList ++ rest = ' ' :: (sign.toList ++ ' ' :: rest) := by
    rw [hjoiner, String.toList_append, String.toList_append, List.append_assoc, List.append_assoc]
    rfl
  rw [hplace, htext]
  exact .blank hblank (.lexeme hsign (fun hkind => absurd hkind (by simp)) (.blank hblank .here))

namespace Written

variable {f l r : Formula} {d dl dr : Nat} {s sl sr : String} {symbols : Symbols}

theorem loosen {c c' : Category} (h : Written c f d s) (hc : c'.tightness ≤ c.tightness) :
    Written c' f d s := by
  intro p rest hrest
  obtain ⟨ts, hcut, hf⟩ := h p rest hrest
  exact ⟨ts, hcut, hf.loosen hc⟩

theorem name {name : String} (h : IsName name) : Written .primary (.var name) 0 name := by
  intro p rest hrest
  have hcut : Cut p (name.toList ++ rest) [⟨.identifier, name, p⟩] (p + name.length) rest :=
    .one h fun _ => hrest
  exact ⟨_, hcut, .name rfl⟩

/-- A group ends with a sign, so that anything could follow it. -/
theorem group (h : Written .whole f d s) : Written .primary f (d + 1) ("(" ++ s ++ ")") := by
  intro p rest hrest
  obtain ⟨ts, hcut, hf⟩ := h (p + "(".length) (")".toList ++ rest) (endsName_cons (by decide) rest)
  have hopening : Cut p ("(".toList ++ (s.toList ++ (")".toList ++ rest))) [⟨.opening, "(", p⟩]
      (p + "(".length) (s.toList ++ (")".toList ++ rest)) :=
    .one rfl fun hkind => absurd hkind (by simp)
  have hclosing : Cut (p + "(".length + s.length) (")".toList ++ rest)
      [⟨.closing, ")", p + "(".length + s.length⟩] (p + "(".length + s.length + ")".length) rest :=
    .one rfl fun hkind => absurd hkind (by simp)
  refine ⟨⟨.opening, "(", p⟩ :: ts ++ [⟨.closing, ")", p + "(".length + s.length⟩], ?_,
    .group rfl rfl hf⟩
  rw [String.toList_append, String.toList_append, String.length_append, String.length_append,
    List.append_assoc, List.append_assoc, ← Nat.add_assoc, ← Nat.add_assoc]
  exact hopening.trans (hcut.trans hclosing)

theorem negation (hsymbols : symbols.Readable) (h : Written .negated f d s) :
    Written .negated (.neg f) (d + 1) (symbols.negation ++ s) := by
  intro p rest hrest
  obtain ⟨ts, hcut, hf⟩ := h (p + symbols.negation.length) rest hrest
  refine ⟨⟨.negation, symbols.negation, p⟩ :: ts, ?_, .negation rfl hf⟩
  rw [String.toList_append, List.append_assoc, String.length_append, ← Nat.add_assoc]
  exact .lexeme hsymbols.negation (fun hkind => absurd hkind (by simp)) hcut

/-- The blank in front of the connective ends the left operand. -/
theorem join (hsymbols : symbols.Readable) {op : Connective} (hl : Written (.joined op) l dl sl)
    (hr : Written (.within op) r dr sr) :
    Written (.joined op) (.binary op l r) (max dl dr) (sl ++ symbols.joiner op ++ sr) := by
  intro p rest hrest
  obtain ⟨sign, hsign, hjoiner⟩ := hsymbols.joiner op
  obtain ⟨us, hright, hderived⟩ := hr (p + sl.length + (symbols.joiner op).length) rest hrest
  have hends : EndsName ((symbols.joiner op).toList ++ (sr.toList ++ rest)) := by
    rw [hjoiner, String.toList_append, String.toList_append]
    exact endsName_cons (by decide) _
  obtain ⟨ts, hleft, hderives⟩ := hl p _ hends
  have hmiddle := cut_joiner hsign hjoiner (p + sl.length) (sr.toList ++ rest)
  refine ⟨_, ?_, .join (t := ⟨.connective op, sign, p + sl.length + 1⟩) rfl hderives hderived⟩
  rw [String.toList_append, String.toList_append, String.length_append, String.length_append,
    List.append_assoc, List.append_assoc, ← Nat.add_assoc, ← Nat.add_assoc]
  exact hleft.trans (hmiddle.trans hright)

end Written

/-! ## Reading back -/

/-- A text that is written as the grammar says is read as its formula, unless that is nested deeper
than the limit. -/
theorem parse_of_written {f : Formula} {d : Nat} {s : String} (h : Written .whole f d s)
    (limit : Int) :
    (parse (some s) limit).outcome =
      if limit < d then .error (.nestedTooDeep d limit) else .ok f := by
  obtain ⟨ts, hcut, hf⟩ := h 0 [] endsName_nil
  rw [List.append_nil] at hcut
  have hscan := scan_of_cut hcut
  rw [parse_eq_interpret (by rw [hscan]), hscan]
  exact Reader.interpret_of_derives hf

end Sentential
