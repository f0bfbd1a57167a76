/-
# Sentential.Proofs.Token.Wording -- texts put together from lexemes and white space

A wording is a list of lexemes with white space in front of each and behind the last. Every gap may
be empty but one between two names, which without it would be one name. No other two lexemes can be
taken for something else where they meet: a lexeme that is no name begins with a character that no
name has, and no lexeme of that sort is the beginning of another. So the tokens of the text of a
wording are its lexemes, each at the place where it was put.
-/
import Mathlib.Data.List.Chain
import Sentential.Proofs.Parser.Reading
import Sentential.Proofs.Token.Cutting

namespace Sentential

/-! ## Lexemes and gaps -/

/-- A text and the kind of token that it spells. -/
structure Lexeme where
  kind : TokenKind
  text : String
  spells : kind.Spells text

/-- White space, or nothing. -/
def IsGap (s : String) : Prop := ∀ c ∈ s.toList, Text.isBlank c

/-- A lexeme and the gap in front of it. -/
structure Spaced where
  gap : String
  lexeme : Lexeme
  blank : IsGap gap

namespace Spaced

/-- Two names are not put side by side without a gap. -/
def Parted (first second : Spaced) : Prop :=
  first.lexeme.kind = .identifier → second.lexeme.kind = .identifier → second.gap ≠ ""

/-- The text of lexemes in a row, with `ending` behind them. -/
def textOf (ending : String) : List Spaced → String
  | [] => ending
  | first :: rest => first.gap ++ first.lexeme.text ++ textOf ending rest

/-- The tokens that lexemes in a row are from the place `p` on: each stands behind its gap. -/
def tokensFrom (p : Nat) : List Spaced → List Token
  | [] => []
  | first :: rest =>
    ⟨first.lexeme.kind, first.lexeme.text, p + first.gap.length⟩ ::
      tokensFrom (p + first.gap.length + first.lexeme.text.length) rest

end Spaced

/-- Lexemes with gaps before, between and behind them. -/
structure Wording where
  words : List Spaced
  ending : String
  parted : words.IsChain Spaced.Parted
  blank : IsGap ending

namespace Wording

/-- What is written. -/
def text (w : Wording) : String := Spaced.textOf w.ending w.words

/-- The lexemes at the places where they stand in the text. -/
def tokens (w : Wording) : List Token := Spaced.tokensFrom 0 w.words

end Wording

/-! ## Seams -/

theorem endsName_of_isBlank {c : Char} (h : Text.isBlank c) (rest : List Char) :
    EndsName (c :: rest) := by
  apply endsName_cons
  intro hname
  exact not_isBlank_of_isNameChar hname h

/-- A lexeme that is no name ends a name in front of it. -/
theorem TokenKind.Spells.endsName {kind : TokenKind} {text : String} (h : kind.Spells text)
    (hkind : kind ≠ .identifier) (rest : List Char) : EndsName (text.toList ++ rest) := by
  cases kind with
  | identifier => exact absurd rfl hkind
  | negation =>
      simp only [Spells, List.mem_cons, List.not_mem_nil, or_false] at h
      rcases h with rfl | rfl | rfl <;> exact endsName_cons (by decide) _
  | connective op =>
      cases op <;> simp only [Spells, Connective.spellings, List.mem_cons, List.not_mem_nil,
        or_false] at h <;> rcases h with rfl | rfl <;> exact endsName_cons (by decide) _
  | opening => obtain rfl : text = "(" := h; exact endsName_cons (by decide) _
  | closing => obtain rfl : text = ")" := h; exact endsName_cons (by decide) _

namespace IsGap

theorem endsName {s : String} (h : IsGap s) (hs : s ≠ "") (rest : List Char) :
    EndsName (s.toList ++ rest) := by
  unfold IsGap at h
  cases hcs : s.toList with
  | nil => exact absurd (String.toList_eq_nil_iff.mp hcs) hs
  | cons c cs =>
      rw [hcs] at h
      exact endsName_of_isBlank (h c (List.mem_cons_self ..)) _

/-- A gap is cut off. -/
theorem cut {s : String} (h : IsGap s) (p : Nat) (rest : List Char) :
    Cut p (s.toList ++ rest) [] (p + s.length) rest := by
  unfold IsGap at h
  rw [← String.length_toList]
  generalize s.toList = cs at h
  induction cs generalizing p with
  | nil => exact .here
  | cons c cs ih =>
      have htail := ih (p + 1) fun x hx => h x (List.mem_cons_of_mem c hx)
      rw [List.length_cons, show p + (cs.length + 1) = p + 1 + cs.length by omega]
      exact .blank (h c (List.mem_cons_self ..)) htail

end IsGap

namespace Spaced

variable {ending : String} {first : Spaced} {rest : List Spaced}

/-- What stands behind a name makes it no longer. -/
theorem endsName_textOf (hending : IsGap ending) (hparted : (first :: rest).IsChain Parted)
    (hname : first.lexeme.kind = .identifier) : EndsName (textOf ending rest).toList := by
  cases rest with
  | nil =>
      by_cases hempty : ending = ""
      · rw [hempty]
        exact endsName_nil
      · have hends := hending.endsName hempty []
        rwa [List.append_nil] at hends
  | cons second rest =>
      rw [textOf, String.toList_append, String.toList_append, List.append_assoc]
      by_cases hgap : second.gap = ""
      · -- without a gap it is no second name
        have hkind : second.lexeme.kind ≠ .identifier := by
          intro hsecond
          exact (List.isChain_cons_cons.mp hparted).1 hname hsecond hgap
        rw [hgap]
        exact second.lexeme.spells.endsName hkind _
      · exact second.blank.endsName hgap _

/-- Lexemes in a row are cut into the tokens that they are. -/
theorem cut (hending : IsGap ending) {words : List Spaced} (hparted : words.IsChain Parted)
    (p : Nat) :
    Cut p (textOf ending words).toList (tokensFrom p words) (p + (textOf ending words).length)
      [] := by
  induction words generalizing p with
  | nil =>
      have hcut := hending.cut p []
      rwa [List.append_nil] at hcut
  | cons first rest ih =>
      have hrest := ih hparted.tail (p + first.gap.length + first.lexeme.text.length)
      have hword := Cut.lexeme first.lexeme.spells (endsName_textOf hending hparted) hrest
      have hgap := first.blank.cut p (first.lexeme.text.toList ++ (textOf ending rest).toList)
      rw [textOf, String.toList_append, String.toList_append, List.append_assoc,
        String.length_append, String.length_append, ← Nat.add_assoc, ← Nat.add_assoc]
      exact hgap.trans hword

end Spaced

namespace Wording

/-- The scan of a wording goes to the end and finds its lexemes. -/
theorem scan_text (w : Wording) : scan w.text = ⟨w.tokens, w.text.length, none⟩ := by
  have hcut := Spaced.cut w.blank w.parted 0
  rw [Nat.zero_add] at hcut
  exact scan_of_cut hcut

theorem tokenize_text (w : Wording) : (tokenize (some w.text)).outcome = .ok w.tokens := by
  rw [tokenize_outcome, w.scan_text]

end Wording

end Sentential
