/-
# Sentential.Token.Lexeme -- the spellings of each kind, and what a scan has to be

Names and signs are classes of texts, stated without the scanner. A scan of a text is right when
its tokens are lexemes in their places, nothing but blanks lies between them, names reach as far
as they can, and it goes on to the end or to a place where nothing can begin.
-/
import Sentential.Token.Scanner

namespace Sentential

/-! ## Spellings -/

/-- The spellings of a connective. -/
def Connective.spellings : Connective → List String
  | .and => ["&", "∧"]
  | .or => ["|", "∨"]
  | .implies => ["->", "=>"]
  | .iff => ["<->", "<=>"]

/-- A letter followed by letters, digits and underscores. -/
def IsName (text : String) : Prop :=
  ∃ c cs, text.toList = c :: cs ∧ isNameStart c ∧ ∀ x ∈ cs, isNameChar x

theorem isName_iff {text : String} {c : Char} {cs : List Char} (h : text.toList = c :: cs) :
    IsName text ↔ (isNameStart c && cs.all isNameChar) = true := by
  rw [Bool.and_eq_true, List.all_eq_true]
  constructor
  · rintro ⟨d, ds, hsplit, hname⟩
    obtain ⟨rfl, rfl⟩ := List.cons.inj (h.symm.trans hsplit)
    exact hname
  · intro hname
    exact ⟨c, cs, h, hname⟩

instance (text : String) : Decidable (IsName text) :=
  match h : text.toList with
  | [] => .isFalse (by simp [IsName, h])
  | _ :: _ => decidable_of_iff _ (isName_iff h).symm

/-- The texts that a kind of token can have. -/
def TokenKind.Spells : TokenKind → String → Prop
  | .identifier, text => IsName text
  | .negation, text => text ∈ ["~", "!", "¬"]
  | .connective op, text => text ∈ op.spellings
  | .opening, text => text = "("
  | .closing, text => text = ")"

/-! ## Scans -/

/-- How many characters stand before and in a token. -/
def Token.stop (t : Token) : Nat := t.index + t.text.length

/-- The text `s` is cut into tokens as it should be, as far as `scan.stop`. -/
structure IsScan (s : String) (scan : Scan) : Prop where
  /-- Every token is a lexeme of its kind. -/
  spells : ∀ t ∈ scan.tokens, t.kind.Spells t.text
  /-- Every token is the part of the text at its place. -/
  placed : ∀ t ∈ scan.tokens, (s.toList.drop t.index).take t.text.length = t.text.toList
  /-- Tokens stand in order and do not overlap. -/
  ordered : scan.tokens.Pairwise fun t u => t.stop ≤ u.index
  /-- No token reaches beyond the place where the scan stops. -/
  reached : ∀ t ∈ scan.tokens, t.stop ≤ scan.stop
  /-- Before that place, everything outside the tokens is blank. -/
  blank : ∀ i c, s.toList[i]? = some c → i < scan.stop →
    (∀ t ∈ scan.tokens, i < t.index ∨ t.stop ≤ i) → Text.isBlank c
  /-- A name ends where no further character of a name follows. -/
  maximal : ∀ t ∈ scan.tokens, t.kind = .identifier →
    ∀ c, s.toList[t.stop]? = some c → ¬ isNameChar c
  /-- The scan stops at the end, or at the character that it reports. -/
  stops : scan.stop ≤ s.length ∧ scan.illegal = s.toList[scan.stop]?
  /-- Where it stops before the end, neither a blank nor a lexeme begins. -/
  stuck : ∀ c, scan.illegal = some c → ¬ Text.isBlank c ∧
    ∀ kind text, TokenKind.Spells kind text → ¬ text.toList <+: s.toList.drop scan.stop

end Sentential
