/-
# Sentential.Proofs.Grammar.Balance -- parentheses counted and parentheses matched

Two kinds of parentheses can be counted over any tokens, whether or not they match. On the tokens of
a derivation the two numbers are equal. The count of nesting keeps an entry for each group that is
open, so the number of entries is by how many the opening parentheses are ahead: it is the invariant
of the count, and the count fails exactly where the closing parentheses would get ahead.
-/
import Sentential.Parser.Reader
import Sentential.Proofs.Grammar.Nesting
import Sentential.Proofs.Grammar.Tightness

namespace Sentential

open Sentential.Parser (countKind)

/-! ## Numbers of tokens of a kind -/

namespace Parser

@[simp]
theorem countKind_nil (kind : TokenKind) : countKind kind [] = 0 := rfl

@[simp]
theorem countKind_cons (kind : TokenKind) (t : Token) (ts : List Token) :
    countKind kind (t :: ts) = countKind kind ts + if t.kind = kind then 1 else 0 := by
  simp [countKind, List.countP_cons]

@[simp]
theorem countKind_append (kind : TokenKind) (us vs : List Token) :
    countKind kind (us ++ vs) = countKind kind us + countKind kind vs :=
  List.countP_append

end Parser

/-- A derivation closes every group that it opens. -/
theorem Derives.balanced {c : Category} {ts : List Token} {f : Formula} {d : Nat}
    (h : Derives c ts f d) : countKind .opening ts = countKind .closing ts := by
  induction h with
  | name ht => simp [ht]
  | group hopening hclosing _ ih => simp [hopening, hclosing, ih]
  | negation ht _ ih => simp [ht, ih]
  | join ht _ _ ihl ihr => simp [ht, ihl, ihr]
  | unjoined _ ih => exact ih
  | unnegated _ ih => exact ih

/-! ## Where the count of nesting fails -/

namespace Nesting

/-- A token that is counted changes the number of open groups by what it opens and closes. -/
theorem length_enclosing {n next : Nesting} {t : Token} (h : n.next? t = some next) :
    next.enclosing.length + countKind .closing [t] =
      n.enclosing.length + countKind .opening [t] := by
  cases ht : t.kind with
  | closing =>
      cases henclosing : n.enclosing with
      | nil => exact absurd h (by simp [next?, ht, henclosing])
      | cons added rest =>
          simp only [next?, ht, henclosing, Option.some.injEq] at h
          subst h
          simp [ht]
  | _ =>
      simp only [next?, ht, Option.some.injEq] at h
      subst h
      simp [ht]

/-- Only a closing parenthesis is not counted, and only if no group is open. -/
theorem next?_eq_none_iff {n : Nesting} {t : Token} :
    n.next? t = none ↔ t.kind = .closing ∧ n.enclosing = [] := by
  unfold next?
  cases ht : t.kind with
  | closing => cases henclosing : n.enclosing <;> simp
  | _ => simp

/-- The count fails exactly if some of the first tokens close more groups than are open before them
and opened by them. -/
theorem over?_eq_none_iff {n : Nesting} {ts : List Token} :
    n.over? ts = none ↔
      ∃ us, us <+: ts ∧ n.enclosing.length + countKind .opening us < countKind .closing us := by
  induction ts generalizing n with
  | nil => simp [over?]
  | cons t ts ih =>
      cases hnext : n.next? t with
      | none =>
          obtain ⟨ht, henclosing⟩ := next?_eq_none_iff.mp hnext
          simp only [over?, hnext, true_iff]
          exact ⟨[t], by simp, by simp [ht, henclosing]⟩
      | some next =>
          have hlength := length_enclosing hnext
          simp only [Parser.countKind_cons, Parser.countKind_nil] at hlength
          rw [over?_cons hnext, ih]
          constructor
          · rintro ⟨us, hus, hlt⟩
            refine ⟨t :: us, by simpa using hus, ?_⟩
            simp only [Parser.countKind_cons]
            omega
          · rintro ⟨_ | ⟨u, us⟩, hus, hlt⟩
            · exact absurd hlt (by simp)
            · obtain ⟨rfl, hrest⟩ := List.cons_prefix_cons.mp hus
              refine ⟨us, hrest, ?_⟩
              simp only [Parser.countKind_cons] at hlt
              omega

end Nesting

/-- A reader that measures tokens with a parenthesis that closes nothing has nothing to take from
its stack, whatever its limit; no other tokens bring that about. -/
theorem Reader.depth_eq_emptyStack_iff {reader : Reader} :
    reader.depth = .error .emptyStack ↔ nestingDepth? reader.scanned = none := by
  unfold depth
  cases nestingDepth? reader.scanned with
  | none => simp
  | some d =>
      cases hcheck : reader.maxDepth.check d (.nestedTooDeep d) with
      | ok u => simp [hcheck, Except.map]
      | error fault =>
          rcases Limit.check_eq_error hcheck with rfl | ⟨value, rfl⟩ <;> simp [hcheck, Except.map]

/-- The count of nesting gives every derivation its depth. It fails, for want of an open group, on
exactly those tokens of which some first ones close more groups than they open. -/
theorem nesting_is_enclosure (ts : List Token) :
    (∀ c f d, Derives c ts f d → nestingDepth? ts = some d) ∧
    (nestingDepth? ts = none ↔
      ∃ us, us <+: ts ∧ countKind .opening us < countKind .closing us) ∧
    ∀ limit, Reader.depth ⟨limit, ts⟩ = .error .emptyStack ↔ nestingDepth? ts = none := by
  refine ⟨?_, ?_, fun _ => Reader.depth_eq_emptyStack_iff⟩
  · intro c f d h
    have hwhole : Derives .whole ts f d := h.loosen (Nat.zero_le _)
    exact nestingDepth?_of_derives hwhole
  · rw [nestingDepth?, Nesting.over?_eq_none_iff]
    simp [Nesting.start]

/-- A negation in a negated group is three deep. Without its first two tokens the group closes what
was not opened. -/
theorem negation_in_negated_group_is_three_deep :
    let ts : List Token := [⟨.negation, "~", 0⟩, ⟨.opening, "(", 1⟩, ⟨.identifier, "A", 2⟩,
      ⟨.connective .and, "&", 4⟩, ⟨.negation, "~", 6⟩, ⟨.identifier, "B", 7⟩, ⟨.closing, ")", 8⟩]
    Derives .negated ts (.neg (.binary .and (.var "A") (.neg (.var "B")))) 3 ∧
    nestingDepth? ts = some 3 ∧ nestingDepth? (ts.drop 2) = none := by
  intro ts
  have hleft : Derives (.joined .and) [⟨.identifier, "A", 2⟩] (.var "A") 0 :=
    .unjoined (.unnegated (.name rfl))
  have hright : Derives .negated [⟨.negation, "~", 6⟩, ⟨.identifier, "B", 7⟩] (.neg (.var "B")) 1 :=
    .negation rfl (.unnegated (.name rfl))
  have hinner : Derives .whole [⟨.identifier, "A", 2⟩, ⟨.connective .and, "&", 4⟩,
      ⟨.negation, "~", 6⟩, ⟨.identifier, "B", 7⟩] (.binary .and (.var "A") (.neg (.var "B"))) 1 :=
    (Derives.join (t := ⟨.connective .and, "&", 4⟩) rfl hleft hright).loosen (by decide)
  have hderives : Derives .negated ts (.neg (.binary .and (.var "A") (.neg (.var "B")))) 3 :=
    .negation rfl (.unnegated (.group rfl rfl hinner))
  refine ⟨hderives, (nesting_is_enclosure ts).1 _ _ _ hderives, ?_⟩
  exact (nesting_is_enclosure (ts.drop 2)).2.1.mpr ⟨ts.drop 2, List.prefix_refl _, by decide⟩

end Sentential
