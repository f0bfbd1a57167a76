/-
# Sentential.Proofs.Token.Cutting -- texts as blanks and lexemes

`Cut p cs ts q rest` says, without the scanner, that a text `cs` which begins at place `p` is a
sequence of blanks and the lexemes of `ts`, followed by `rest` at place `q`. No choice is left but
where to stop: a name has to reach as far as it can, and of the other lexemes none is the beginning
of another. So the scanner makes the same cut, and stops where no further blank or lexeme begins.
-/
import Sentential.Token.Lexeme

namespace Sentential

/-! ## One lexeme -/

/-- A name can end in front of the text. -/
def EndsName (cs : List Char) : Prop := ∀ c, cs.head? = some c → ¬ isNameChar c

theorem endsName_nil : EndsName [] := by
  intro c hc
  exact absurd hc (by simp)

theorem endsName_cons {c : Char} (h : ¬ isNameChar c) (rest : List Char) :
    EndsName (c :: rest) := by
  intro x hx
  obtain rfl : c = x := Option.some.inj hx
  exact h

theorem lexeme?_of_isNameStart {c : Char} (h : isNameStart c) (rest : List Char) :
    lexeme? (c :: rest) = some (.identifier, (rest.takeWhile isNameChar).length + 1) := by
  unfold lexeme?
  split
  case h_14 heq =>
      obtain ⟨rfl, rfl⟩ := List.cons.inj heq
      rw [if_pos h]
  case h_15 heq => exact absurd heq (by simp)
  all_goals
    -- the character of a sign begins no name
    rename_i heq
    obtain ⟨rfl, _⟩ := List.cons.inj heq
    exact absurd h (by decide)

theorem takeWhile_of_endsName {cs rest : List Char} (hcs : ∀ c ∈ cs, isNameChar c)
    (hrest : EndsName rest) : (cs ++ rest).takeWhile isNameChar = cs := by
  rw [List.takeWhile_append_of_pos hcs]
  cases rest with
  | nil => simp
  | cons c rest =>
      rw [List.takeWhile_cons_of_neg (hrest c rfl), List.append_nil]

/-- A lexeme at the head of a text is found there, whatever follows; after a name nothing may follow
that would make it longer. -/
theorem lexeme?_append {kind : TokenKind} {text : String} (h : kind.Spells text)
    {rest : List Char} (hrest : kind = .identifier → EndsName rest) :
    lexeme? (text.toList ++ rest) = some (kind, text.length) := by
  cases kind with
  | identifier =>
      obtain ⟨c, cs, htext, hc, hcs⟩ := h
      have hlength : text.length = cs.length + 1 := by
        rw [← String.length_toList, htext, List.length_cons]
      rw [htext, List.cons_append, lexeme?_of_isNameStart hc,
        takeWhile_of_endsName hcs (hrest rfl), hlength]
  | negation =>
      simp only [TokenKind.Spells, List.mem_cons, List.not_mem_nil, or_false] at h
      rcases h with rfl | rfl | rfl <;> rfl
  | connective op =>
      cases op <;> simp only [TokenKind.Spells, Connective.spellings, List.mem_cons,
        List.not_mem_nil, or_false] at h <;> rcases h with rfl | rfl <;> rfl
  | opening => obtain rfl : text = "(" := h; rfl
  | closing => obtain rfl : text = ")" := h; rfl

/-- What is found at the head of a text is a lexeme of its kind, and a name as long as possible. -/
theorem lexeme?_eq_some {cs : List Char} {kind : TokenKind} {n : Nat}
    (h : lexeme? cs = some (kind, n)) :
    ∃ text rest, cs = text.toList ++ rest ∧ n = text.length ∧ kind.Spells text ∧
      (kind = .identifier → EndsName rest) := by
  -- a sign is found by its characters
  have sign : ∀ (text : String) (k : TokenKind) (rest : List Char),
      some (k, text.length) = some (kind, n) → k ≠ .identifier → k.Spells text →
      ∃ text' rest', text.toList ++ rest = text'.toList ++ rest' ∧ n = text'.length ∧
        kind.Spells text' ∧ (kind = .identifier → EndsName rest') := by
    intro text k rest heq hk hspells
    obtain ⟨rfl, rfl⟩ := Prod.mk.inj (Option.some.inj heq)
    exact ⟨text, rest, rfl, rfl, hspells, fun hname => absurd hname hk⟩
  unfold lexeme? at h
  split at h
  · exact sign "<->" _ _ h (by simp) (by simp [TokenKind.Spells, Connective.spellings])
  · exact sign "<=>" _ _ h (by simp) (by simp [TokenKind.Spells, Connective.spellings])
  · exact sign "->" _ _ h (by simp) (by simp [TokenKind.Spells, Connective.spellings])
  · exact sign "=>" _ _ h (by simp) (by simp [TokenKind.Spells, Connective.spellings])
  · exact sign "~" _ _ h (by simp) (by simp [TokenKind.Spells])
  · exact sign "!" _ _ h (by simp) (by simp [TokenKind.Spells])
  · exact sign "¬" _ _ h (by simp) (by simp [TokenKind.Spells])
  · exact sign "&" _ _ h (by simp) (by simp [TokenKind.Spells, Connective.spellings])
  · exact sign "∧" _ _ h (by simp) (by simp [TokenKind.Spells, Connective.spellings])
  · exact sign "|" _ _ h (by simp) (by simp [TokenKind.Spells, Connective.spellings])
  · exact sign "∨" _ _ h (by simp) (by simp [TokenKind.Spells, Connective.spellings])
  · exact sign "(" _ _ h (by simp) rfl
  · exact sign ")" _ _ h (by simp) rfl
  · next c rest _ _ _ _ _ _ _ _ _ _ _ _ _ =>
      split at h
      · next hc =>
          obtain ⟨rfl, rfl⟩ := Prod.mk.inj (Option.some.inj h)
          have hname : (String.ofList (c :: rest.takeWhile isNameChar)).toList =
              c :: rest.takeWhile isNameChar := String.toList_ofList
          refine ⟨_, rest.dropWhile isNameChar, ?_, ?_, ⟨c, _, hname, hc, ?_⟩, ?_⟩
          · rw [hname, List.cons_append, List.takeWhile_append_dropWhile]
          · rw [← String.length_toList, hname, List.length_cons]
          · exact List.all_eq_true.mp List.all_takeWhile
          · intro _ x hx
            have hnot := List.head?_dropWhile_not isNameChar rest
            rw [hx] at hnot
            simp [hnot]
      · exact absurd h (by simp)
  · exact absurd h (by simp)

theorem isNameChar_of_isNameStart {c : Char} (h : isNameStart c) : isNameChar c := by
  have hletter : c.isAlpha = true := h
  rw [isNameChar, Char.isAlphanum, hletter]
  rfl

/-- No character of a name is blank. -/
theorem not_isBlank_of_isNameChar {c : Char} (h : isNameChar c) : ¬ Text.isBlank c := by
  -- letters, digits and the underscore, in code points
  have hname : (decide (65 ≤ c.val ∧ c.val ≤ 90) || (decide (97 ≤ c.val) && decide (c.val ≤ 122)) ||
      (decide (48 ≤ c.val) && decide (c.val ≤ 57)) || c == '_') = true := h
  have hcodes : (((65 ≤ c.toNat ∧ c.toNat ≤ 90) ∨ (97 ≤ c.toNat ∧ c.toNat ≤ 122)) ∨
      (48 ≤ c.toNat ∧ c.toNat ≤ 57)) ∨ c = '_' := by
    simpa [UInt32.le_iff_toNat_le] using hname
  rcases hcodes with hcodes | rfl
  · simp [Text.isBlank]
    omega
  · decide

/-- No lexeme begins with a blank, and none is empty. -/
theorem TokenKind.Spells.head {kind : TokenKind} {text : String} (h : kind.Spells text) :
    ∃ c cs, text.toList = c :: cs ∧ ¬ Text.isBlank c := by
  cases kind with
  | identifier =>
      obtain ⟨c, cs, htext, hc, _⟩ := h
      exact ⟨c, cs, htext, not_isBlank_of_isNameChar (isNameChar_of_isNameStart hc)⟩
  | negation =>
      simp only [Spells, List.mem_cons, List.not_mem_nil, or_false] at h
      rcases h with rfl | rfl | rfl <;> exact ⟨_, _, rfl, by decide⟩
  | connective op =>
      cases op <;> simp only [Spells, Connective.spellings, List.mem_cons, List.not_mem_nil,
        or_false] at h <;> rcases h with rfl | rfl <;> exact ⟨_, _, rfl, by decide⟩
  | opening => obtain rfl : text = "(" := h; exact ⟨_, _, rfl, by decide⟩
  | closing => obtain rfl : text = ")" := h; exact ⟨_, _, rfl, by decide⟩

/-- A lexeme takes up some room. -/
theorem TokenKind.Spells.length_pos {kind : TokenKind} {text : String} (h : kind.Spells text) :
    0 < text.length := by
  obtain ⟨c, cs, htext, -⟩ := h.head
  rw [← String.length_toList, htext]
  exact Nat.succ_pos cs.length

/-! ## Cutting a text -/

/-- The text `cs` at place `p` is cut into blanks and the lexemes of `ts`, up to `rest` at `q`. -/
inductive Cut : Nat → List Char → List Token → Nat → List Char → Prop where
  | here {p : Nat} {cs : List Char} : Cut p cs [] p cs
  | blank {p q : Nat} {c : Char} {cs rest : List Char} {ts : List Token} :
      Text.isBlank c → Cut (p + 1) cs ts q rest → Cut p (c :: cs) ts q rest
  | lexeme {p q : Nat} {kind : TokenKind} {text : String} {cs rest : List Char} {ts : List Token} :
      kind.Spells text → (kind = .identifier → EndsName cs) →
      Cut (p + text.length) cs ts q rest →
      Cut p (text.toList ++ cs) (⟨kind, text, p⟩ :: ts) q rest

namespace Cut

theorem trans {p q r : Nat} {cs mid rest : List Char} {us vs : List Token}
    (h : Cut p cs us q mid) (h' : Cut q mid vs r rest) : Cut p cs (us ++ vs) r rest := by
  induction h with
  | here => exact h'
  | blank hc _ ih => exact .blank hc (ih h')
  | lexeme hspells hends _ ih => exact .lexeme hspells hends (ih h')

/-- One lexeme. -/
theorem one {p : Nat} {kind : TokenKind} {text : String} {rest : List Char}
    (hspells : kind.Spells text) (hends : kind = .identifier → EndsName rest) :
    Cut p (text.toList ++ rest) [⟨kind, text, p⟩] (p + text.length) rest :=
  .lexeme hspells hends .here

theorem spells {p q : Nat} {cs rest : List Char} {ts : List Token} (h : Cut p cs ts q rest) :
    ∀ t ∈ ts, t.kind.Spells t.text := by
  induction h with
  | here => exact fun t ht => absurd ht (by simp)
  | blank _ _ ih => exact ih
  | lexeme hspells _ _ ih =>
      intro t ht
      rcases List.mem_cons.mp ht with rfl | ht
      · exact hspells
      · exact ih t ht

theorem le_index {p q : Nat} {cs rest : List Char} {ts : List Token} (h : Cut p cs ts q rest) :
    ∀ t ∈ ts, p ≤ t.index := by
  induction h with
  | here => exact fun t ht => absurd ht (by simp)
  | blank _ _ ih => exact fun t ht => Nat.le_of_succ_le (ih t ht)
  | lexeme _ _ _ ih =>
      intro t ht
      rcases List.mem_cons.mp ht with rfl | ht
      · exact Nat.le_refl _
      · exact Nat.le_trans (Nat.le_add_right ..) (ih t ht)

/-- Every token stands behind the ones before it. -/
theorem pairwise_index {p q : Nat} {cs rest : List Char} {ts : List Token}
    (h : Cut p cs ts q rest) : ts.Pairwise fun t u => t.index < u.index := by
  induction h with
  | here => exact .nil
  | blank _ _ ih => exact ih
  | @lexeme p q kind text cs rest ts hspells _ hrest ih =>
      refine .cons ?_ ih
      intro u hu
      have hpos := hspells.length_pos
      have hle : p + text.length ≤ u.index := hrest.le_index u hu
      show p < u.index
      omega

end Cut

/-! ## The scanner -/

theorem scanFrom_skip (found : List Token) (p : Nat) (cs rest : List Char) :
    scanFrom found p cs.length (cs ++ rest) = scanFrom found (p + cs.length) 0 rest := by
  induction cs generalizing p with
  | nil => rfl
  | cons c cs ih =>
      rw [List.length_cons, List.cons_append, scanFrom, ih]
      congr 1
      omega

theorem scanFrom_blank {c : Char} (h : Text.isBlank c) (found : List Token) (p : Nat)
    (rest : List Char) : scanFrom found p 0 (c :: rest) = scanFrom found (p + 1) 0 rest := by
  rw [scanFrom, if_pos h]

/-- A lexeme at the head of a text is cut off. -/
theorem scanFrom_lexeme {kind : TokenKind} {text : String} (h : kind.Spells text)
    {rest : List Char} (hrest : kind = .identifier → EndsName rest) (found : List Token) (p : Nat) :
    scanFrom found p 0 (text.toList ++ rest) =
      scanFrom (⟨kind, text, p⟩ :: found) (p + text.length) 0 rest := by
  have hlexeme := lexeme?_append h hrest
  obtain ⟨c, cs, htext, hc⟩ := h.head
  have hlength : text.length = cs.length + 1 := by
    rw [← String.length_toList, htext, List.length_cons]
  have htaken : String.ofList ((c :: (cs ++ rest)).take text.length) = text := by
    rw [← String.toList_inj, String.toList_ofList, hlength, htext, List.take_succ_cons,
      List.take_left]
  rw [htext, List.cons_append] at hlexeme ⊢
  rw [scanFrom, if_neg hc, hlexeme]
  simp only [htaken]
  rw [hlength, Nat.add_sub_cancel, scanFrom_skip]
  congr 1
  omega

/-- The scanner follows every cut. -/
theorem scanFrom_of_cut {p q : Nat} {cs rest : List Char} {ts : List Token}
    (h : Cut p cs ts q rest) (found : List Token) :
    scanFrom found p 0 cs = scanFrom (ts.reverse ++ found) q 0 rest := by
  induction h generalizing found with
  | here => rfl
  | blank hc _ ih => rw [scanFrom_blank hc, ih]
  | lexeme hspells hends _ ih =>
      rw [scanFrom_lexeme hspells hends, ih, List.reverse_cons, List.append_assoc]
      rfl

/-- No blank and no lexeme begins the text. -/
def Stuck (cs : List Char) : Prop :=
  ∀ c, cs.head? = some c → ¬ Text.isBlank c ∧ lexeme? cs = none

/-- Where no cut goes on, the scanner stops. -/
theorem scanFrom_of_stuck {cs : List Char} (h : Stuck cs) (found : List Token) (p : Nat) :
    scanFrom found p 0 cs = ⟨found.reverse, p, cs.head?⟩ := by
  cases cs with
  | nil => rfl
  | cons c cs =>
      obtain ⟨hc, hnone⟩ := h c rfl
      rw [scanFrom, if_neg hc, hnone]
      rfl

/-- Every text has a cut that cannot go on. -/
theorem exists_cut (p : Nat) (cs : List Char) : ∃ ts q rest, Cut p cs ts q rest ∧ Stuck rest := by
  match cs with
  | [] => exact ⟨[], p, [], .here, fun c hc => absurd hc (by simp)⟩
  | c :: cs =>
      by_cases hc : Text.isBlank c
      · obtain ⟨ts, q, rest, hcut, hstuck⟩ := exists_cut (p + 1) cs
        exact ⟨ts, q, rest, .blank hc hcut, hstuck⟩
      · cases hlexeme : lexeme? (c :: cs) with
        | none =>
            refine ⟨[], p, c :: cs, .here, ?_⟩
            intro x hx
            obtain rfl : c = x := Option.some.inj hx
            exact ⟨hc, hlexeme⟩
        | some found =>
            obtain ⟨kind, n⟩ := found
            obtain ⟨text, rest, heq, -, hspells, hends⟩ := lexeme?_eq_some hlexeme
            -- no lexeme is empty, so the text behind it is shorter
            have hlt : rest.length < (c :: cs).length := by
              have hpos := hspells.length_pos
              rw [heq, List.length_append, String.length_toList]
              omega
            obtain ⟨ts, q, last, hcut, hstuck⟩ := exists_cut (p + text.length) rest
            refine ⟨⟨kind, text, p⟩ :: ts, q, last, ?_, hstuck⟩
            rw [heq]
            exact .lexeme hspells hends hcut
termination_by cs.length
decreasing_by
  · exact Nat.lt_succ_self cs.length
  · exact hlt

/-- The scan of a text is any cut of it that cannot go on. -/
theorem scan_eq_of_cut {s : String} {ts : List Token} {q : Nat} {rest : List Char}
    (hcut : Cut 0 s.toList ts q rest) (hstuck : Stuck rest) : scan s = ⟨ts, q, rest.head?⟩ := by
  rw [scan, scanFrom_of_cut hcut, scanFrom_of_stuck hstuck, List.append_nil, List.reverse_reverse]

/-- The scan of a text is its cut, as far as one goes. -/
theorem scan_eq (s : String) :
    ∃ rest, Cut 0 s.toList (scan s).tokens (scan s).stop rest ∧ Stuck rest ∧
      (scan s).illegal = rest.head? := by
  obtain ⟨ts, q, rest, hcut, hstuck⟩ := exists_cut 0 s.toList
  rw [scan_eq_of_cut hcut hstuck]
  exact ⟨rest, hcut, hstuck, rfl⟩

/-- A text that is scanned to its end is cut to its end. -/
theorem cut_of_scan {s : String} (h : (scan s).illegal = none) :
    Cut 0 s.toList (scan s).tokens (scan s).stop [] := by
  obtain ⟨rest, hcut, -, hillegal⟩ := scan_eq s
  rw [h] at hillegal
  cases rest with
  | nil => exact hcut
  | cons c rest => exact absurd hillegal (by simp)

/-- A text that is cut to its end is scanned to its end, into the same tokens. -/
theorem scan_of_cut {s : String} {ts : List Token} {q : Nat} (h : Cut 0 s.toList ts q []) :
    scan s = ⟨ts, q, none⟩ := by
  apply scan_eq_of_cut h
  intro c hc
  exact absurd hc (by simp)

end Sentential
