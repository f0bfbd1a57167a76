/-
# Sentential.Proofs.Parser.Prefixes -- how far a list of tokens can be the beginning of a formula

The parser goes on exactly as long as some formula begins with what it has read. In one direction
a formula is built: one name if an operand is wanted, and then a closing parenthesis for each group
on the stack. In the other, a refused token is refused whatever follows it, and the parser would
have read any formula that begins with it to the end. So the token at which a run stops is the
first one that no formula can go on with.
-/
import Sentential.Proofs.Parser.Soundness

namespace Sentential

theorem Viable.of_append {us vs : List Token} (h : Viable (us ++ vs)) : Viable us := by
  obtain ⟨rest, hrest⟩ := h
  exact ⟨vs ++ rest, by rwa [← List.append_assoc]⟩

theorem Viable.take {ts : List Token} (h : Viable ts) (k : Nat) : Viable (ts.take k) := by
  rw [← List.take_append_drop k ts] at h
  exact h.of_append

namespace Parser

/-! ## Open groups -/

theorem count_group_joined (n : Nat) (stack : List Frame) (f : Formula) :
    (joined n stack f).1.count .group = stack.count .group := by
  induction stack generalizing f with
  | nil => rfl
  | cons frame stack ih =>
      cases frame with
      | negation => rfl
      | group => rfl
      | operand left op =>
          by_cases hn : n ≤ op.tightness
          · rw [joined, if_pos hn, ih]
            simp
          · rw [joined, if_neg hn]

/-- Finishing an operand leaves an operand, and no group is opened or closed by it. -/
theorem negated_eq (stack : List Frame) (f : Formula) :
    ∃ rest g, negated stack f = ⟨rest, some g⟩ ∧ rest.count .group = stack.count .group := by
  induction stack generalizing f with
  | nil => exact ⟨[], f, rfl, rfl⟩
  | cons frame stack ih =>
      cases frame with
      | negation =>
          obtain ⟨rest, g, heq, hcount⟩ := ih (.neg f)
          exact ⟨rest, g, heq, by rw [hcount]; simp⟩
      | group => exact ⟨.group :: stack, f, rfl, rfl⟩
      | operand left op => exact ⟨.operand left op :: stack, f, rfl, rfl⟩

/-- Where a whole operand stands in front of a stack, the stack is empty or begins with a group. -/
theorem Holds.nil_or_group {stack : List Frame} {f : Formula} {ts : List Token}
    (h : Holds stack f .whole ts) : stack = [] ∨ ∃ rest, stack = .group :: rest := by
  match stack, h.room with
  | [], _ => exact .inl rfl
  | .group :: rest, _ => exact .inr ⟨rest, rfl⟩
  | .operand _ op :: _, hlt => exact absurd hlt (Nat.not_lt_zero _)

/-! ## Completing what has been read -/

/-- After an operand, closing every open group completes a formula. -/
theorem Holds.wellFormed_append {stack : List Frame} {f : Formula} {ts closings : List Token}
    (h : Holds stack f .negated ts) (hclosings : ∀ t ∈ closings, t.kind = .closing)
    (hlength : closings.length = stack.count .group) : WellFormed (ts ++ closings) := by
  -- each parenthesis finishes the innermost group, and the operand in it grows into the group
  induction closings generalizing stack f ts with
  | nil =>
      have hcount := count_group_joined 0 stack f
      obtain ⟨rest, g, hjoin⟩ : ∃ rest g, Parser.joined 0 stack f = (rest, g) := ⟨_, _, rfl⟩
      have hwhole := h.whole hjoin
      rw [hjoin] at hcount
      rcases hwhole.nil_or_group with rfl | ⟨rest, rfl⟩
      · obtain ⟨us, fs, d, rfl, hstack, hg⟩ := hwhole.split
        cases hstack
        exact ⟨g, d, by rwa [List.append_nil]⟩
      · -- a group that is still open would have been counted
        simp only [List.count_cons_self, List.length_nil] at hcount hlength
        omega
  | cons t closings ih =>
      have hcount := count_group_joined 0 stack f
      obtain ⟨rest, g, hjoin⟩ : ∃ rest g, Parser.joined 0 stack f = (rest, g) := ⟨_, _, rfl⟩
      rw [hjoin] at hcount
      rcases (h.whole hjoin).nil_or_group with rfl | ⟨rest, rfl⟩
      · -- with no group open there would be no parenthesis to come
        simp only [List.count_nil, List.length_cons] at hcount hlength
        omega
      · have hstep : State.continue? stack f t = some (negated rest g) := by
          simp only [State.continue?, hclosings t (List.mem_cons_self ..), hjoin]
        have hreads := reads_continue h hstep
        obtain ⟨rest', g', heq, hrest'⟩ := negated_eq rest g
        rw [heq] at hreads
        have hholds : Holds rest' g' .negated _ := hreads
        have hdone := ih hholds (fun u hu => hclosings u (List.mem_cons_of_mem _ hu)) (by
            simp only [List.count_cons_self, List.length_cons] at hcount hlength
            omega)
        rwa [List.append_assoc] at hdone

/-- Where an operand is wanted, a name and then closing every open group completes a formula. -/
theorem Spells.wellFormed_append {stack : List Frame} {ts closings : List Token} {name : Token}
    (h : Spells stack ts) (hname : name.kind = .identifier)
    (hclosings : ∀ t ∈ closings, t.kind = .closing)
    (hlength : closings.length = stack.count .group) : WellFormed (ts ++ name :: closings) := by
  have hstep : State.begin? stack name = some (negated stack (.var name.text)) := by
    simp only [State.begin?, hname]
  have hreads := reads_begin h hstep
  obtain ⟨rest, g, heq, hcount⟩ := negated_eq stack (.var name.text)
  rw [heq] at hreads
  have hdone := Holds.wellFormed_append hreads hclosings (hlength.trans hcount.symm)
  rwa [List.append_assoc] at hdone

/-- Some formula begins with what the parser has read. -/
theorem State.Reads.viable {state : State} {ts : List Token} (h : state.Reads ts) : Viable ts := by
  -- any name will do, and the texts and places of the tokens do not matter
  let name : Token := ⟨.identifier, "A", 0⟩
  let closings (n : Nat) : List Token := List.replicate n ⟨.closing, ")", 0⟩
  have hclosings : ∀ n, ∀ t ∈ closings n, t.kind = .closing := by
    intro n t ht
    rw [List.eq_of_mem_replicate ht]
  rcases state with ⟨stack, _ | f⟩
  · exact ⟨name :: closings (stack.count .group),
      Spells.wellFormed_append h rfl (hclosings _) (List.length_replicate ..)⟩
  · exact ⟨closings (stack.count .group),
      Holds.wellFormed_append h (hclosings _) (List.length_replicate ..)⟩

/-! ## Where a run stops -/

/-- The parser reads a list of tokens to its end exactly if some formula begins with it. -/
theorem run_start_ok_iff_viable {ts : List Token} :
    (∃ state, State.start.run ts = .ok state) ↔ Viable ts := by
  constructor
  · rintro ⟨state, hrun⟩
    exact (reads_of_run_start hrun).viable
  · rintro ⟨rest, f, d, h⟩
    obtain ⟨last, hrun, _⟩ := run_start_of_derives h
    rw [State.run_append] at hrun
    cases hts : State.start.run ts with
    | ok state => exact ⟨state, rfl⟩
    | error t =>
        rw [hts] at hrun
        exact absurd hrun (by simp)

/-- A run that stops at a token has read everything before it and refuses the token itself. -/
theorem State.run_eq_error {state : State} {ts : List Token} {t : Token}
    (h : state.run ts = .error t) :
    ∃ us vs before, ts = us ++ t :: vs ∧ state.run us = .ok before ∧ before.step? t = none := by
  induction ts generalizing state with
  | nil => exact absurd h (by simp [State.run])
  | cons u ts ih =>
      rw [State.run] at h
      cases hstep : state.step? u with
      | none =>
          rw [hstep] at h
          obtain rfl := Except.error.inj h
          exact ⟨[], ts, state, rfl, rfl, hstep⟩
      | some next =>
          rw [hstep] at h
          obtain ⟨us, vs, before, rfl, hrun, hrefused⟩ := ih h
          refine ⟨u :: us, vs, before, rfl, ?_, hrefused⟩
          rw [State.run, hstep]
          exact hrun

/-- A run stops at the first token that no formula can go on with. -/
theorem run_start_eq_error_iff {ts : List Token} {t : Token} :
    State.start.run ts = .error t ↔
      ∃ us vs, ts = us ++ t :: vs ∧ Viable us ∧ ¬ Viable (us ++ [t]) := by
  constructor
  · intro h
    obtain ⟨us, vs, before, rfl, hrun, hrefused⟩ := State.run_eq_error h
    refine ⟨us, vs, rfl, run_start_ok_iff_viable.mp ⟨before, hrun⟩, ?_⟩
    intro hviable
    obtain ⟨state, hstate⟩ := run_start_ok_iff_viable.mpr hviable
    rw [State.run_append_of_ok hrun, State.run, hrefused] at hstate
    exact absurd hstate (by simp)
  · rintro ⟨us, vs, rfl, hus, ht⟩
    obtain ⟨before, hrun⟩ := run_start_ok_iff_viable.mpr hus
    rw [State.run_append_of_ok hrun, State.run]
    cases hstep : before.step? t with
    | none => rfl
    | some next =>
        -- were the token taken, the parser would have read a beginning that no formula has
        refine absurd (run_start_ok_iff_viable.mp ⟨next, ?_⟩) ht
        rw [State.run_append_of_ok hrun]
        exact State.run_singleton hstep

end Parser

end Sentential
