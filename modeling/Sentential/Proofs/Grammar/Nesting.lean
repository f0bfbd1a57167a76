/-
# Sentential.Proofs.Grammar.Nesting -- the count of nesting on derivable tokens

The count goes over the tokens once and knows nothing of the tree. Over the tokens of a derivation
it raises the greatest enclosure by as much as the derivation is deep, spends the negations that
were pending, and gives back every level it took: `Nesting.past`. So on a formula it never meets a
parenthesis that closes nothing, and its result is the depth that the derivation carries.
-/
import Sentential.Token.Grammar
import Sentential.Token.Nesting

namespace Sentential

namespace Nesting

/-- The state of the count after an operand that is `depth` deep. -/
def past (n : Nesting) (depth : Nat) : Nesting :=
  { n with deepest := max n.deepest (n.level + n.pending + depth), pending := 0 }

theorem over?_cons {n next : Nesting} {t : Token} (h : n.next? t = some next)
    (rest : List Token) : n.over? (t :: rest) = next.over? rest := by
  rw [over?, h]

/-- The tokens of a derivation take the count past an operand of its depth. An operand of a
category of connectives stands where no negation is pending. -/
theorem over?_of_derives {c : Category} {ts : List Token} {f : Formula} {d : Nat}
    (h : Derives c ts f d) :
    ∀ (n : Nesting) (rest : List Token), (∀ op, c = .joined op → n.pending = 0) →
      n.over? (ts ++ rest) = (n.past d).over? rest := by
  induction h with
  | name ht =>
      intro n rest _
      exact over?_cons (by simp only [next?, ht, past, Nat.add_zero]) rest
  | @group opening closing ts f d hopening hclosing _ ih =>
      intro n rest _
      have hfirst : n.next? opening = some
          ⟨n.deepest, n.level + (n.pending + 1), 0, (n.pending + 1) :: n.enclosing⟩ := by
        simp only [next?, hopening]
      rw [List.cons_append, List.cons_append, over?_cons hfirst, List.append_assoc,
        ih _ _ fun _ _ => rfl]
      refine over?_cons ?_ rest
      -- the level that the group added is given back
      simp only [next?, hclosing, past, Nat.add_sub_cancel, Option.some.injEq, mk.injEq, and_true]
      omega
  | @negation t ts f d ht _ ih =>
      intro n rest _
      have hfirst : n.next? t = some { n with pending := n.pending + 1 } := by
        simp only [next?, ht]
      rw [List.cons_append, over?_cons hfirst, ih _ _ fun op hop => absurd hop (by simp)]
      simp only [past]
      congr 2
      omega
  | @join op t ls rs l r dl dr ht _ _ ihl ihr =>
      intro n rest hn
      have hpending : n.pending = 0 := hn op rfl
      have hjoin : (n.past dl).next? t = some (n.past dl) := by
        simp only [next?, ht]
      rw [List.append_assoc, ihl n _ hn, List.cons_append, over?_cons hjoin,
        ihr _ _ fun _ _ => rfl]
      simp only [past, hpending]
      congr 2
      omega
  | unjoined _ ih =>
      intro n rest hn
      exact ih n rest fun _ _ => hn _ rfl
  | unnegated _ ih =>
      intro n rest _
      exact ih n rest fun _ hop => absurd hop (by simp)

end Nesting

/-- On the tokens of a formula the count gives the depth of the derivation. -/
theorem nestingDepth?_of_derives {ts : List Token} {f : Formula} {d : Nat}
    (h : Derives .whole ts f d) : nestingDepth? ts = some d := by
  have hover := Nesting.over?_of_derives h .start [] fun _ _ => rfl
  rw [List.append_nil] at hover
  rw [nestingDepth?, hover]
  simp [Nesting.past, Nesting.over?, Nesting.start]

end Sentential
