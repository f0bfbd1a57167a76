/-
# Sentential.Proofs.Token.Partition -- the scan of a text, place by place

A cut says how a text goes on; a partition says what stands at each place of it. Between two places
of a text the tokens stand where they say they do, none over another, and every character outside
them is blank: `Partition`. The two say the same. So the scan of a text is the one partition of it
that reaches from its beginning to the end or to a place where neither a blank nor a lexeme begins,
and nothing about the scanner has to be known to tell which that is.
-/
import Sentential.Proofs.Token.Cutting
import Sentential.Proofs.Parser.Reading

namespace Sentential

/-! ## What stands between two places -/

/-- Between the places `p` and `q` of the text `cs`, the tokens `ts` stand in their places and all
else is blank. -/
structure Partition (cs : List Char) (p q : Nat) (ts : List Token) : Prop where
  bounds : p ≤ q ∧ q ≤ cs.length
  spells : ∀ t ∈ ts, t.kind.Spells t.text
  placed : ∀ t ∈ ts, (cs.drop t.index).take t.text.length = t.text.toList
  ordered : ts.Pairwise fun t u => t.stop ≤ u.index
  inside : ∀ t ∈ ts, p ≤ t.index ∧ t.stop ≤ q
  blank : ∀ i c, cs[i]? = some c → p ≤ i → i < q → (∀ t ∈ ts, i < t.index ∨ t.stop ≤ i) →
    Text.isBlank c
  maximal : ∀ t ∈ ts, t.kind = .identifier → EndsName (cs.drop t.stop)

namespace Partition

variable {cs : List Char} {p q : Nat} {t : Token} {ts : List Token}

theorem index_lt_stop (h : Partition cs p q ts) : ∀ t ∈ ts, t.index < t.stop := by
  intro t ht
  exact Nat.lt_add_of_pos_right (h.spells t ht).length_pos

/-! ### Adding to the front -/

theorem nil (hp : p ≤ cs.length) : Partition cs p p [] where
  bounds := ⟨Nat.le_refl p, hp⟩
  spells := by simp
  placed := by simp
  ordered := .nil
  inside := by simp
  blank := by
    intro i c _ hle hlt
    omega
  maximal := by simp

theorem cons_blank {c : Char} (hget : cs[p]? = some c) (hc : Text.isBlank c)
    (h : Partition cs (p + 1) q ts) : Partition cs p q ts where
  bounds := ⟨Nat.le_of_succ_le h.bounds.1, h.bounds.2⟩
  spells := h.spells
  placed := h.placed
  ordered := h.ordered
  inside := by
    intro t ht
    have hinside := h.inside t ht
    omega
  blank := by
    intro i x hx hle hlt houtside
    rcases Nat.lt_or_eq_of_le hle with hlater | rfl
    · exact h.blank i x hx hlater hlt houtside
    · obtain rfl : c = x := Option.some.inj (hget.symm.trans hx)
      exact hc
  maximal := h.maximal

theorem cons_token (hindex : t.index = p) (hspells : t.kind.Spells t.text)
    (hplaced : (cs.drop p).take t.text.length = t.text.toList)
    (hmaximal : t.kind = .identifier → EndsName (cs.drop t.stop))
    (h : Partition cs t.stop q ts) : Partition cs p q (t :: ts) where
  bounds := by
    have hbounds := h.bounds
    have hstop : t.stop = p + t.text.length := by rw [Token.stop, hindex]
    omega
  spells := List.forall_mem_cons.mpr ⟨hspells, h.spells⟩
  placed := List.forall_mem_cons.mpr ⟨hindex.symm ▸ hplaced, h.placed⟩
  ordered := .cons (fun u hu => (h.inside u hu).1) h.ordered
  inside := by
    have hstop : t.stop = p + t.text.length := by rw [Token.stop, hindex]
    refine List.forall_mem_cons.mpr ⟨⟨Nat.le_of_eq hindex.symm, h.bounds.1⟩, ?_⟩
    intro u hu
    have hinside := h.inside u hu
    omega
  blank := by
    intro i x hx hle hlt houtside
    obtain ⟨hfirst, hrest⟩ := List.forall_mem_cons.mp houtside
    exact h.blank i x hx (by omega) hlt hrest
  maximal := List.forall_mem_cons.mpr ⟨hmaximal, h.maximal⟩

/-! ### Taking from the front -/

/-- There is no room for a token between a place and itself. -/
theorem eq_nil (h : Partition cs p p ts) : ts = [] := by
  apply List.eq_nil_iff_forall_not_mem.mpr
  intro t ht
  have hinside := h.inside t ht
  have hlt := h.index_lt_stop t ht
  omega

/-- A partition begins with a token, or all of its tokens come later. -/
theorem first (h : Partition cs p q ts) :
    (∃ t rest, ts = t :: rest ∧ t.index = p) ∨ ∀ t ∈ ts, p < t.index := by
  cases ts with
  | nil => exact .inr (by simp)
  | cons t rest =>
      have hinside := h.inside t (List.mem_cons_self ..)
      by_cases hindex : t.index = p
      · exact .inl ⟨t, rest, rfl, hindex⟩
      · have hlt := h.index_lt_stop t (List.mem_cons_self ..)
        refine .inr (List.forall_mem_cons.mpr ⟨by omega, ?_⟩)
        intro u hu
        have hle := List.rel_of_pairwise_cons h.ordered hu
        omega

/-- A place before all tokens is blank. -/
theorem blank_of_before (h : Partition cs p q ts) (hlt : p < q) (hbefore : ∀ t ∈ ts, p < t.index) :
    ∃ c, cs[p]? = some c ∧ Text.isBlank c ∧ Partition cs (p + 1) q ts := by
  have hlength : p < cs.length := Nat.lt_of_lt_of_le hlt h.bounds.2
  have hget : cs[p]? = some cs[p] := List.getElem?_eq_getElem hlength
  refine ⟨cs[p], hget, ?_, ?_⟩
  · exact h.blank p cs[p] hget (Nat.le_refl p) hlt fun t ht => .inl (hbefore t ht)
  · exact {
      bounds := ⟨hlt, h.bounds.2⟩
      spells := h.spells
      placed := h.placed
      ordered := h.ordered
      inside := fun t ht => ⟨hbefore t ht, (h.inside t ht).2⟩
      blank := fun i c hc hle => h.blank i c hc (Nat.le_of_succ_le hle)
      maximal := h.maximal }

/-- What follows the first token. -/
theorem tail (h : Partition cs p q (t :: ts)) : Partition cs t.stop q ts where
  bounds := ⟨(h.inside t (List.mem_cons_self ..)).2, h.bounds.2⟩
  spells := fun u hu => h.spells u (List.mem_cons_of_mem t hu)
  placed := fun u hu => h.placed u (List.mem_cons_of_mem t hu)
  ordered := h.ordered.of_cons
  inside := by
    intro u hu
    exact ⟨List.rel_of_pairwise_cons h.ordered hu, (h.inside u (List.mem_cons_of_mem t hu)).2⟩
  blank := by
    intro i c hc hle hlt houtside
    have hinside := h.inside t (List.mem_cons_self ..)
    have hstop := h.index_lt_stop t (List.mem_cons_self ..)
    exact h.blank i c hc (by omega) hlt (List.forall_mem_cons.mpr ⟨.inr hle, houtside⟩)
  maximal := fun u hu => h.maximal u (List.mem_cons_of_mem t hu)

/-! ### Cuts -/

/-- A partition is a cut, read from its first place to its last. -/
theorem cut (h : Partition cs p q ts) : Cut p (cs.drop p) ts q (cs.drop q) := by
  -- on the room between the two places, of which a blank and a lexeme both take some
  induction hroom : q - p using Nat.strongRecOn generalizing p ts with
  | ind room ih =>
      rcases Nat.eq_or_lt_of_le h.bounds.1 with rfl | hlt
      · obtain rfl := h.eq_nil
        exact .here
      · rcases h.first with ⟨t, rest, rfl, rfl⟩ | hbefore
        · have hplaced := h.placed t (List.mem_cons_self ..)
          have hsplit : cs.drop t.index = t.text.toList ++ cs.drop t.stop := by
            rw [← hplaced, Token.stop, ← List.drop_drop, List.take_append_drop]
          have hstop := h.index_lt_stop t (List.mem_cons_self ..)
          rw [hsplit]
          exact .lexeme (h.spells t (List.mem_cons_self ..)) (h.maximal t (List.mem_cons_self ..))
            (ih (q - t.stop) (by omega) h.tail rfl)
        · obtain ⟨c, hget, hc, hrest⟩ := h.blank_of_before hlt hbefore
          obtain ⟨hlength, rfl⟩ := List.getElem?_eq_some_iff.mp hget
          rw [List.drop_eq_getElem_cons hlength]
          exact .blank hc (ih (q - (p + 1)) (by omega) hrest rfl)

/-- A cut of what follows a place is a partition that begins there. -/
theorem of_cut {text rest : List Char} (h : Cut p text ts q rest) (htext : cs.drop p = text)
    (hp : p ≤ cs.length) : Partition cs p q ts ∧ cs.drop q = rest := by
  induction h with
  | here => exact ⟨.nil hp, htext⟩
  | @blank p q c text rest ts hc _ ih =>
      have hlength : p < cs.length := by
        have hcount := congrArg List.length htext
        rw [List.length_drop, List.length_cons] at hcount
        omega
      rw [List.drop_eq_getElem_cons hlength] at htext
      obtain ⟨rfl, htail⟩ := List.cons.inj htext
      obtain ⟨hpartition, hrest⟩ := ih htail hlength
      exact ⟨hpartition.cons_blank (List.getElem?_eq_getElem hlength) hc, hrest⟩
  | @lexeme p q kind word text rest ts hspells hends _ ih =>
      have hlength : p + word.length ≤ cs.length := by
        have hcount := congrArg List.length htext
        rw [List.length_drop, List.length_append, String.length_toList] at hcount
        omega
      have hword : (cs.drop p).take word.length = word.toList := by
        rw [htext, ← String.length_toList, List.take_left]
      have htail : cs.drop (p + word.length) = text := by
        rw [← List.drop_drop, htext, ← String.length_toList, List.drop_left]
      obtain ⟨hpartition, hrest⟩ := ih htail hlength
      refine ⟨cons_token rfl hspells hword ?_ hpartition, hrest⟩
      intro hkind
      show EndsName (cs.drop (p + word.length))
      rw [htail]
      exact hends hkind

end Partition

/-! ## Where a scan stops -/

/-- No lexeme is found at the head of a text exactly if none begins it. -/
theorem lexeme?_eq_none_iff {cs : List Char} :
    lexeme? cs = none ↔ ∀ kind text, TokenKind.Spells kind text → ¬ text.toList <+: cs := by
  constructor
  · rintro hnone kind text hspells ⟨rest, rfl⟩
    by_cases hkind : kind = .identifier
    · -- what follows a name may belong to a longer one, which is then found in its place
      subst hkind
      obtain ⟨c, tail, htext, hc, -⟩ := hspells
      rw [htext, List.cons_append, lexeme?_of_isNameStart hc] at hnone
      exact absurd hnone (by simp)
    · rw [lexeme?_append hspells fun h => absurd h hkind] at hnone
      exact absurd hnone (by simp)
  · intro h
    cases hlexeme : lexeme? cs with
    | none => rfl
    | some found =>
        obtain ⟨text, rest, rfl, -, hspells, -⟩ := lexeme?_eq_some hlexeme
        exact absurd (List.prefix_append ..) (h found.1 text hspells)

/-- A scan is right exactly if it is a partition from the beginning of the text to a place where
nothing further begins, and reports the character there. -/
theorem isScan_iff {s : String} {found : Scan} :
    IsScan s found ↔ Partition s.toList 0 found.stop found.tokens ∧
      found.illegal = (s.toList.drop found.stop).head? ∧ Stuck (s.toList.drop found.stop) := by
  constructor
  · intro h
    have hillegal : found.illegal = (s.toList.drop found.stop).head? := by
      rw [List.head?_drop]
      exact h.stops.2
    refine ⟨?_, hillegal, ?_⟩
    · exact {
        bounds := ⟨Nat.zero_le _, by rw [String.length_toList]; exact h.stops.1⟩
        spells := h.spells
        placed := h.placed
        ordered := h.ordered
        inside := fun t ht => ⟨Nat.zero_le _, h.reached t ht⟩
        blank := fun i c hc _ => h.blank i c hc
        maximal := by
          intro t ht hkind c hc
          rw [List.head?_drop] at hc
          exact h.maximal t ht hkind c hc }
    · intro c hc
      obtain ⟨hblank, hlexeme⟩ := h.stuck c (hillegal.trans hc)
      exact ⟨hblank, lexeme?_eq_none_iff.mpr hlexeme⟩
  · rintro ⟨h, hillegal, hstuck⟩
    exact {
      spells := h.spells
      placed := h.placed
      ordered := h.ordered
      reached := fun t ht => (h.inside t ht).2
      blank := fun i c hc => h.blank i c hc (Nat.zero_le i)
      maximal := by
        intro t ht hkind c hc
        rw [← List.head?_drop] at hc
        exact h.maximal t ht hkind c hc
      stops := by
        rw [hillegal, List.head?_drop, ← String.length_toList]
        exact ⟨h.bounds.2, rfl⟩
      stuck := by
        intro c hc
        obtain ⟨hblank, hlexeme⟩ := hstuck c (hillegal.symm.trans hc)
        exact ⟨hblank, lexeme?_eq_none_iff.mp hlexeme⟩ }

/-! ## The scan -/

/-- The scan of a text is the one scan of it that is right. The tokens of the text are those of the
scan if it reaches the end, and otherwise the text has none and is refused for the character at the
place where the scan stops. -/
theorem scan_is_the_exact_partition (s : String) :
    (∀ found, IsScan s found ↔ found = scan s) ∧
    ((scan s).stop = s.length ∧ (tokenize (some s)).outcome = .ok (scan s).tokens ∨
      ∃ c, s.toList[(scan s).stop]? = some c ∧
        (tokenize (some s)).outcome = .error (.illegalCharacter c (scan s).stop)) := by
  obtain ⟨rest, hcut, hstuck, hillegal⟩ := scan_eq s
  obtain ⟨hpartition, hrest⟩ := Partition.of_cut hcut List.drop_zero (Nat.zero_le _)
  subst hrest
  refine ⟨?_, ?_⟩
  · intro found
    rw [isScan_iff]
    constructor
    · rintro ⟨h, hfound, hend⟩
      exact ((scan_eq_of_cut h.cut hend).trans (by rw [← hfound])).symm
    · rintro rfl
      exact ⟨hpartition, hillegal, hstuck⟩
  · rw [List.head?_drop] at hillegal
    rw [tokenize_outcome, hillegal]
    cases hget : s.toList[(scan s).stop]? with
    | none =>
        have hle := List.getElem?_eq_none_iff.mp hget
        have hbounds := hpartition.bounds
        rw [String.length_toList] at hle hbounds
        exact .inl ⟨Nat.le_antisymm hbounds.2 hle, rfl⟩
    | some c => exact .inr ⟨c, rfl, rfl⟩

-- half a sign is no lexeme, and the scan stops where the half begins
example : scan "A1 <- B" = ⟨[⟨.identifier, "A1", 0⟩], 3, some '<'⟩ := rfl

end Sentential
