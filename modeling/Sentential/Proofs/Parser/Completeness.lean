/-
# Sentential.Proofs.Parser.Completeness -- every derivable list of tokens is read

Reading the tokens of a derivation where an operand is wanted leaves the parser with the formula
of the derivation in front of the stack it started from. For names, groups and negations that is
so at once; for a category of connectives it is so up to joining, since the parser joins two
operands only when it has seen what follows them. The stack has to leave room for the category: a
connective as tight or tighter that waits on top of it would take the first operand away.
-/
import Sentential.Parser.State
import Sentential.Proofs.Grammar.Tightness

namespace Sentential.Parser

/-! ## Stacks that take nothing away -/

/-- Nothing on top of the stack takes an operand joined as tightly as `n`. -/
def Loose (n : Nat) : List Frame → Prop
  | .negation :: _ => False
  | .operand _ op :: _ => op.tightness < n
  | .group :: _ => True
  | [] => True

theorem Loose.mono {n m : Nat} {stack : List Frame} (h : Loose n stack) (hnm : n ≤ m) :
    Loose m stack := by
  match stack, h with
  | [], _ => trivial
  | .group :: _, _ => trivial
  | .operand _ op :: _, h => exact Nat.lt_of_lt_of_le h hnm

theorem joined_of_loose {n : Nat} {stack : List Frame} (h : Loose n stack) (f : Formula) :
    joined n stack f = (stack, f) := by
  match stack, h with
  | [], _ => rfl
  | .group :: _, _ => rfl
  | .operand _ op :: _, h =>
      have hop : ¬ n ≤ op.tightness := Nat.not_le.mpr h
      simp only [joined, if_neg hop]

theorem negated_of_loose {n : Nat} {stack : List Frame} (h : Loose n stack) (f : Formula) :
    negated stack f = ⟨stack, some f⟩ := by
  match stack, h with
  | [], _ => rfl
  | .group :: _, _ => rfl
  | .operand _ _ :: _, _ => rfl

/-- Joining what binds tightly first makes no difference to joining what binds loosely. -/
theorem joined_joined {n m : Nat} (hmn : m ≤ n) (stack : List Frame) (f : Formula) :
    joined m (joined n stack f).1 (joined n stack f).2 = joined m stack f := by
  induction stack generalizing f with
  | nil => rfl
  | cons frame stack ih =>
      cases frame with
      | negation => rfl
      | group => rfl
      | operand left op =>
          by_cases hn : n ≤ op.tightness
          · have hm : m ≤ op.tightness := Nat.le_trans hmn hn
            simp only [joined, if_pos hn, if_pos hm]
            exact ih _
          · simp only [joined, if_neg hn]

/-! ## Runs -/

theorem State.run_append (state : State) (us vs : List Token) :
    state.run (us ++ vs) =
      match state.run us with
      | .ok next => next.run vs
      | .error t => .error t := by
  induction us generalizing state with
  | nil => rfl
  | cons t us ih =>
      rw [List.cons_append, State.run, State.run]
      cases state.step? t with
      | none => rfl
      | some next => exact ih next

theorem State.run_append_of_ok {state next : State} {us : List Token}
    (h : state.run us = .ok next) (vs : List Token) :
    state.run (us ++ vs) = next.run vs := by
  rw [State.run_append, h]

theorem State.run_singleton {state next : State} {t : Token} (h : state.step? t = some next) :
    state.run [t] = .ok next := by
  simp only [State.run, h]

/-! ## Reading a derivation -/

/-- The stack leaves room for a category: its operands reach the category's own connective. -/
def Admits : List Frame → Category → Prop
  | stack, .joined op => Loose op.tightness stack
  | _, .negated => True
  | _, .primary => True

/-- The parser has the operand `f` of that category in front of `stack`, up to joining. -/
def Finished (stack : List Frame) (f : Formula) : Category → State → Prop
  | .joined op, state =>
    ∃ waiting g, state = ⟨waiting, some g⟩ ∧ joined op.tightness waiting g = (stack, f)
  | .negated, state => state = negated stack f
  | .primary, state => state = negated stack f

/-- A connective leaves room for what stands to its right. -/
theorem admits_within (op : Connective) (left : Formula) (stack : List Frame) :
    Admits (.operand left op :: stack) (.within op) := by
  cases op with
  | and => trivial
  | or => exact (by decide : Connective.or.tightness < Connective.and.tightness)
  | implies => exact (by decide : Connective.implies.tightness < Connective.or.tightness)
  | iff => exact (by decide : Connective.iff.tightness < Connective.implies.tightness)

/-- A stack with room for a category has room for the tighter one inside it. -/
theorem Admits.within {op : Connective} {stack : List Frame} (h : Loose op.tightness stack) :
    Admits stack (.within op) := by
  cases op with
  | and => trivial
  | or => exact h.mono (by decide)
  | implies => exact h.mono (by decide)
  | iff => exact h.mono (by decide)

/-- An operand to the right of a connective is joined with everything that binds as tightly. -/
theorem Finished.joined_within {op : Connective} {stack : List Frame} {f : Formula} {state : State}
    {n : Nat} (hstack : Loose n stack) (h : Finished stack f (.within op) state) :
    ∃ waiting g, state = ⟨waiting, some g⟩ ∧
      joined op.tightness waiting g = joined op.tightness stack f := by
  have hjoin : ∀ op' : Connective, op.tightness ≤ op'.tightness →
      Finished stack f (.joined op') state → ∃ waiting g, state = ⟨waiting, some g⟩ ∧
        joined op.tightness waiting g = joined op.tightness stack f := by
    rintro op' hle ⟨waiting, g, hstate, heq⟩
    refine ⟨waiting, g, hstate, ?_⟩
    rw [← joined_joined hle waiting g, heq]
  cases op with
  | and => exact ⟨stack, f, h.trans (negated_of_loose hstack f), rfl⟩
  | or => exact hjoin .and (by decide) h
  | implies => exact hjoin .or (by decide) h
  | iff => exact hjoin .implies (by decide) h

/-- Reading the tokens of a derivation gives its formula, on every stack with room for it. -/
theorem run_of_derives {c : Category} {ts : List Token} {f : Formula} {d : Nat}
    (h : Derives c ts f d) :
    ∀ stack, Admits stack c →
      ∃ state, State.run ⟨stack, none⟩ ts = .ok state ∧ Finished stack f c state := by
  -- on the derivation, for every stack: an operand is read on top of all that waits for it
  induction h with
  | @name t ht =>
      intro stack _
      refine ⟨negated stack (.var t.text), State.run_singleton ?_, rfl⟩
      simp only [State.step?, State.begin?, ht]
  | @group opening closing ts f d hopening hclosing _ ih =>
      intro stack _
      obtain ⟨state, hrun, waiting, g, rfl, hjoin⟩ := ih (.group :: stack) trivial
      refine ⟨negated stack f, ?_, rfl⟩
      have hfirst : State.step? ⟨stack, none⟩ opening = some ⟨.group :: stack, none⟩ := by
        simp only [State.step?, State.begin?, hopening]
      have hlast : State.step? ⟨waiting, some g⟩ closing = some (negated stack f) := by
        have hzero : joined 0 waiting g = (.group :: stack, f) := hjoin
        simp only [State.step?, State.continue?, hclosing, hzero]
      rw [List.cons_append, State.run, hfirst]
      exact (State.run_append_of_ok hrun [closing]).trans (State.run_singleton hlast)
  | @negation t ts f d ht _ ih =>
      intro stack _
      obtain ⟨state, hrun, hstate⟩ := ih (.negation :: stack) trivial
      refine ⟨state, ?_, hstate⟩
      have hstep : State.step? ⟨stack, none⟩ t = some ⟨.negation :: stack, none⟩ := by
        simp only [State.step?, State.begin?, ht]
      rw [State.run, hstep]
      exact hrun
  | @join op t ls rs l r dl dr ht _ _ ihl ihr =>
      intro stack hstack
      obtain ⟨_, hleft, waiting, g, rfl, hjoin⟩ := ihl stack hstack
      -- the connective joins the left operand, which has been read up to joining
      obtain ⟨state, hright, hstate⟩ :=
        ihr (.operand l op :: stack) (admits_within op l stack)
      have hloose : Loose (op.tightness + 1) (.operand l op :: stack) := Nat.lt_succ_self _
      obtain ⟨waiting', g', rfl, hjoin'⟩ := Finished.joined_within hloose hstate
      refine ⟨_, ?_, waiting', g', rfl, ?_⟩
      · have hstep : State.step? ⟨waiting, some g⟩ t = some ⟨.operand l op :: stack, none⟩ := by
          simp only [State.step?, State.continue?, ht, hjoin]
        rw [State.run_append_of_ok hleft, State.run, hstep]
        exact hright
      · rw [hjoin', joined, if_pos (Nat.le_refl _)]
        exact joined_of_loose hstack _
  | @unjoined op ts f d _ ih =>
      intro stack hstack
      -- the tighter category can leave operands waiting that this one joins
      obtain ⟨state, hrun, hstate⟩ := ih stack (Admits.within hstack)
      obtain ⟨waiting, g, rfl, hjoin⟩ := Finished.joined_within hstack hstate
      exact ⟨_, hrun, waiting, g, rfl, hjoin.trans (joined_of_loose hstack f)⟩
  | unnegated _ ih =>
      intro stack _
      exact ih stack trivial

/-- The tokens of a whole formula are read to the end, and the parser then has that formula. -/
theorem run_start_of_derives {ts : List Token} {f : Formula} {d : Nat}
    (h : Derives .whole ts f d) :
    ∃ state, State.start.run ts = .ok state ∧ state.result? = some f := by
  obtain ⟨state, hrun, waiting, g, rfl, hjoin⟩ := run_of_derives h [] trivial
  refine ⟨_, hrun, ?_⟩
  have hzero : joined 0 waiting g = ([], f) := hjoin
  simp only [State.result?, hzero]

end Sentential.Parser
