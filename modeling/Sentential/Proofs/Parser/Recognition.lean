/-
# Sentential.Proofs.Parser.Recognition -- the grammar decides what is read and what is refused

Two statements about all texts that can be scanned. A formula is read from tokens exactly if the
grammar derives it from them, and tokens that the grammar does not derive are refused for their
order. And the refusal is exact: it points at the first token that no formula can go on with, or,
where every token could still be right, it says that the text ends too early.
-/
import Sentential.Proofs.Parser.Reading
import Sentential.Proofs.Token.Cutting

namespace Sentential

/-! ## Acceptance -/

/-- A text without illegal characters has the outcome of its tokens. -/
theorem parse_eq_interpret {text : String} (h : (scan text).illegal = none) (limit : Int) :
    (parse (some text) limit).outcome = (Reader.interpret ⟨limit, (scan text).tokens⟩).outcome := by
  rw [parse_of_scan h]
  by_cases hformed : WellFormed (scan text).tokens
  · obtain ⟨f, d, hf⟩ := hformed
    rw [Reader.interpret_of_derives hf]
    split
    · exact reported_error rfl
    · rfl
  · obtain ⟨fault, hfault, -, hformula⟩ :=
      Reader.formula_of_not_wellFormed ⟨limit, (scan text).tokens⟩ hformed
    rw [Reader.interpret_of_error hfault]
    exact reported_error hformula

/-- Within the depth limit the parser is the grammar: it reads from a list of tokens the one formula
that the grammar derives, refuses the list for its order exactly if the grammar derives nothing, and
of a text it reads the tokens and nothing else. -/
theorem interpret_iff_derives (limit : Int) (ts : List Token) :
    (∀ f, (Reader.interpret ⟨limit, ts⟩).outcome = .ok f ↔
      ∃ d : Nat, Derives .whole ts f d ∧ d ≤ limit) ∧
    ((∃ fault, (Reader.interpret ⟨limit, ts⟩).outcome = .error fault ∧ fault.IsSyntactic) ↔
      ¬ WellFormed ts) ∧
    (∀ f f' d d', Derives .whole ts f d → Derives .whole ts f' d' → f = f' ∧ d = d') ∧
    (∀ text, (scan text).illegal = none → (scan text).tokens = ts →
      (parse (some text) limit).outcome = (Reader.interpret ⟨limit, ts⟩).outcome) := by
  refine ⟨?_, ?_, fun f f' d d' => Derives.unique, ?_⟩
  · intro f
    constructor
    · intro h
      obtain ⟨d, hd⟩ := Reader.formula_eq_ok_iff.mp (Reader.formula_of_interpret h)
      refine ⟨d, hd, ?_⟩
      rw [Reader.interpret_of_derives hd] at h
      by_cases hlimit : limit < d
      · rw [if_pos hlimit] at h
        exact absurd h (by simp)
      · exact Int.not_lt.mp hlimit
    · rintro ⟨d, hd, hlimit⟩
      rw [Reader.interpret_of_derives hd, if_neg (by omega)]
  · constructor
    · rintro ⟨fault, hfault, hsyntactic⟩ ⟨f, d, hf⟩
      rw [Reader.interpret_of_derives hf] at hfault
      split at hfault
      · obtain rfl := Except.error.inj hfault
        exact hsyntactic
      · exact absurd hfault (by simp)
    · intro hnot
      obtain ⟨fault, hfault, hsyntactic, -⟩ :=
        Reader.formula_of_not_wellFormed ⟨limit, ts⟩ hnot
      exact ⟨fault, Reader.interpret_of_error hfault, hsyntactic⟩
  · rintro text hscan rfl
    exact parse_eq_interpret hscan limit

/-- Implications in a row are grouped to the left, and the negated group is two deep. -/
theorem derives_implications_to_the_left :
    ∃ d : Nat, Derives .whole (scan "A -> B => ~(A)").tokens
      (.binary .implies (.binary .implies (.var "A") (.var "B")) (.neg (.var "A"))) d ∧
        (d : Int) ≤ 2 :=
  ((interpret_iff_derives 2 _).1 _).mp rfl

/-! ## Refusal -/

theorem viable_nil : Viable [] :=
  Parser.run_start_ok_iff_viable.mp ⟨_, rfl⟩

/-- A list is the beginning of a formula exactly if all that it begins with are. -/
theorem forall_viable_take_iff {ts : List Token} :
    (∀ k < ts.length, Viable (ts.take (k + 1))) ↔ Viable ts := by
  constructor
  · intro h
    cases hlength : ts.length with
    | zero => exact List.length_eq_zero_iff.mp hlength ▸ viable_nil
    | succ n =>
        have hlast := h n (by omega)
        rwa [← hlength, List.take_length] at hlast
  · intro h k _
    exact h.take (k + 1)

/-- A beginning of a formula that is none itself lacks at least one token. -/
theorem viable_iff_of_not_wellFormed {ts : List Token} (hnot : ¬ WellFormed ts) :
    Viable ts ↔ ∃ rest, rest ≠ [] ∧ WellFormed (ts ++ rest) := by
  constructor
  · rintro ⟨rest, hrest⟩
    refine ⟨rest, ?_, hrest⟩
    rintro rfl
    rw [List.append_nil] at hrest
    exact hnot hrest
  · rintro ⟨rest, -, hrest⟩
    exact ⟨rest, hrest⟩

/-- The tokens of a text are told apart by their places. -/
theorem length_eq_of_split {us vs : List Token} {t : Token} {k : Nat}
    (hplaces : (us ++ t :: vs).Pairwise fun u v => u.index < v.index)
    (hk : (us ++ t :: vs)[k]? = some t) : us.length = k := by
  obtain ⟨hlt, hget⟩ := List.getElem?_eq_some_iff.mp hk
  have hus : us.length < (us ++ t :: vs).length := by simp
  have hmid : (us ++ t :: vs)[us.length] = t := by simp
  have hordered := List.pairwise_iff_getElem.mp hplaces
  rcases Nat.lt_trichotomy us.length k with hbefore | heq | hafter
  · have hindex := hordered us.length k hus hlt hbefore
    rw [hmid, hget] at hindex
    omega
  · exact heq
  · have hindex := hordered k us.length hlt hus hafter
    rw [hmid, hget] at hindex
    omega

/-- The token at `k` is where a list stops being the beginning of a formula, in two ways of saying
so: by what stands before it, and as the least place. -/
theorem first_wrong_iff {ts : List Token} {k : Nat}
    (hplaces : ts.Pairwise fun t u => t.index < u.index) (hk : k < ts.length) :
    (∃ us vs, ts = us ++ ts[k] :: vs ∧ Viable us ∧ ¬ Viable (us ++ [ts[k]])) ↔
      ¬ Viable (ts.take (k + 1)) ∧ ∀ j < k, Viable (ts.take (j + 1)) := by
  have hnext : ts.take (k + 1) = ts.take k ++ [ts[k]] := (List.take_append_getElem hk).symm
  constructor
  · rintro ⟨us, vs, hsplit, hus, hwrong⟩
    have hget : ts[k]? = some ts[k] := List.getElem?_eq_getElem hk
    generalize ts[k] = t at *
    subst hsplit
    -- the token stands only once in the list, so the split is at `k`
    have hlength := length_eq_of_split hplaces hget
    have htake : (us ++ t :: vs).take k = us := by rw [← hlength, List.take_left]
    rw [hnext, htake]
    refine ⟨hwrong, ?_⟩
    intro j hj
    have hbefore := hus.take (j + 1)
    rwa [← htake, List.take_take, Nat.min_eq_left (by omega)] at hbefore
  · rintro ⟨hwrong, hleast⟩
    refine ⟨ts.take k, ts.drop (k + 1), ?_, ?_, hnext ▸ hwrong⟩
    · rw [List.getElem_cons_drop, List.take_append_drop]
    · cases k with
      | zero => exact viable_nil
      | succ j => exact hleast j (Nat.lt_succ_self j)

/-- A text whose tokens make no formula is refused for the fault of its tokens. -/
theorem parse_eq_error_iff {text : String} (hscan : (scan text).illegal = none)
    (hnot : ¬ WellFormed (scan text).tokens) (limit : Limit) (fault : Fault) :
    (parse (some text) limit).outcome = .error fault ↔
      Reader.formula ⟨limit, (scan text).tokens⟩ = .error fault := by
  obtain ⟨found, hfound, -, hformula⟩ :=
    Reader.formula_of_not_wellFormed ⟨limit, (scan text).tokens⟩ hnot
  rw [parse_of_scan hscan, Reader.interpret_of_error hfound, reported_error hformula, hfound]

/-- Where a text is no formula, the fault points at the first token with which it stops being the
beginning of one. If there is no such token, the text is the beginning of a longer formula, and the
fault is one of the end of the text and points at no token. -/
theorem parse_points_at_first_wrong_token {text : String} {ts : List Token} (limit : Limit)
    (hscan : (scan text).illegal = none) (hts : (scan text).tokens = ts)
    (hnot : ¬ WellFormed ts) :
    (∀ k (hk : k < ts.length),
      (parse (some text) limit).outcome = .error (.unexpectedToken ts[k]) ↔
        ¬ Viable (ts.take (k + 1)) ∧ ∀ j < k, Viable (ts.take (j + 1))) ∧
    ((∀ k < ts.length, Viable (ts.take (k + 1))) ↔
      ∃ rest, rest ≠ [] ∧ WellFormed (ts ++ rest)) ∧
    ((∀ k < ts.length, Viable (ts.take (k + 1))) ↔
      ∃ fault, (parse (some text) limit).outcome = .error fault ∧ fault.token? = none ∧
        fault.name ∈ ["UnexpectedEndError", "MissingParenthesisError"]) := by
  subst hts
  have hplaces := (cut_of_scan hscan).pairwise_index
  refine ⟨?_, ?_, ?_⟩
  · intro k hk
    rw [parse_eq_error_iff hscan hnot, Reader.formula_eq_unexpected_iff]
    exact first_wrong_iff hplaces hk
  · rw [forall_viable_take_iff, viable_iff_of_not_wellFormed hnot]
  · rw [forall_viable_take_iff]
    simp only [parse_eq_error_iff hscan hnot]
    constructor
    · intro hviable
      obtain ⟨-, -, htoken, hname⟩ := Parser.endFault_spec (scan text).tokens
      exact ⟨_, Reader.formula_of_viable hviable hnot, htoken, hname⟩
    · rintro ⟨fault, hfault, htoken, -⟩
      cases hrun : Parser.State.start.run (scan text).tokens with
      | ok state => exact Parser.run_start_ok_iff_viable.mp ⟨state, hrun⟩
      | error t =>
          -- a run that stops at a token has a fault that points at it
          rw [Reader.formula, hrun] at hfault
          obtain rfl := Except.error.inj hfault
          exact absurd htoken (by simp [Fault.token?])

/-- A parenthesis that closes nothing is pointed at, and not the name behind it. -/
theorem wrong_closing_is_pointed_at :
    (scan "(~A)) B").illegal = none ∧ ¬ WellFormed (scan "(~A)) B").tokens ∧
    (parse (some "(~A)) B") (200 : Int)).outcome = .error (.unexpectedToken ⟨.closing, ")", 4⟩) ∧
    ¬ Viable ((scan "(~A)) B").tokens.take 5) ∧
    ∀ j < 4, Viable ((scan "(~A)) B").tokens.take (j + 1)) := by
  have hrun : Parser.State.start.run (scan "(~A)) B").tokens = .error ⟨.closing, ")", 4⟩ := rfl
  have hnot : ¬ WellFormed (scan "(~A)) B").tokens := by
    rintro ⟨f, d, hf⟩
    obtain ⟨state, hstate, -⟩ := Parser.run_start_of_derives hf
    rw [hrun] at hstate
    exact absurd hstate (by simp)
  have hparse : (parse (some "(~A)) B") (200 : Int)).outcome =
      .error (.unexpectedToken ⟨.closing, ")", 4⟩) := rfl
  have hscan : (scan "(~A)) B").illegal = none := rfl
  have hfirst := (parse_points_at_first_wrong_token (200 : Int) hscan rfl hnot).1 4 (by decide)
  exact ⟨hscan, hnot, hparse, hfirst.mp hparse⟩

end Sentential
