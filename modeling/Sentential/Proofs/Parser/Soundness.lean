/-
# Sentential.Proofs.Parser.Soundness -- everything the parser holds was derived from what it read

What the parser has read is cut along its stack: each frame answers for a stretch of the tokens,
the outermost frame for the first. A waiting left operand answers for a derivation of its own and
for the connective after it, and stands on a stack that leaves room for its category. The operand
in front of the stack, if there is one, answers for the last stretch, as a negation or something
tighter. Every step keeps this, so a formula found at the end has a derivation from all the tokens.
-/
import Sentential.Proofs.Parser.Completeness

namespace Sentential.Parser

/-! ## The tokens behind a stack -/

/-- The tokens that the frames of a stack answer for, outermost first. -/
inductive Spells : List Frame → List Token → Prop where
  | empty : Spells [] []
  | negation {stack : List Frame} {us : List Token} {t : Token} :
      Spells stack us → t.kind = .negation → Spells (.negation :: stack) (us ++ [t])
  | group {stack : List Frame} {us : List Token} {t : Token} :
      Spells stack us → t.kind = .opening → Spells (.group :: stack) (us ++ [t])
  | operand {stack : List Frame} {us ls : List Token} {t : Token} {op : Connective}
      {left : Formula} {d : Nat} :
      Spells stack us → Loose op.tightness stack → Derives (.joined op) ls left d →
      t.kind = .connective op → Spells (.operand left op :: stack) (us ++ ls ++ [t])

/-- An operand of category `c` in front of a stack, and the tokens that both answer for. -/
structure Holds (stack : List Frame) (f : Formula) (c : Category) (ts : List Token) : Prop where
  room : Loose c.tightness stack
  split : ∃ us fs d, ts = us ++ fs ∧ Spells stack us ∧ Derives c fs f d

/-- The tokens that a state of the parser answers for. -/
def State.Reads (state : State) (ts : List Token) : Prop :=
  match state.current with
  | none => Spells state.stack ts
  | some f => Holds state.stack f .negated ts

/-! ## Finishing operands -/

/-- Applying the waiting negations to an operand keeps what the tokens answer for. -/
theorem reads_negated {stack : List Frame} {us fs : List Token} {f : Formula} {d : Nat}
    (hstack : Spells stack us) (hf : Derives .negated fs f d) :
    (negated stack f).Reads (us ++ fs) := by
  induction hstack generalizing fs f d with
  | empty => exact ⟨trivial, [], fs, d, rfl, .empty, hf⟩
  | @negation stack us t hstack ht ih =>
      rw [List.append_assoc]
      exact ih (.negation ht hf)
  | @group stack us t hstack ht _ =>
      exact ⟨trivial, us ++ [t], fs, d, rfl, .group hstack ht, hf⟩
  | @operand stack us ls t op left dl hstack hloose hleft ht _ =>
      exact ⟨op.tightness_lt, us ++ ls ++ [t], fs, d, rfl, .operand hstack hloose hleft ht, hf⟩

/-- Joining the waiting operands keeps what the tokens answer for, and brings the operand into the
category it was joined for. -/
theorem holds_joined {stack : List Frame} {us fs : List Token} {f : Formula} {c : Category}
    {d : Nat} {op : Connective} (hstack : Spells stack us) (hloose : Loose c.tightness stack)
    (hf : Derives c fs f d) (hop : op.tightness ≤ c.tightness) :
    Holds (joined op.tightness stack f).1 (joined op.tightness stack f).2 (.joined op)
      (us ++ fs) := by
  induction hstack generalizing fs f c d with
  | empty => exact ⟨trivial, [], fs, d, rfl, .empty, hf.loosen hop⟩
  | negation => exact hloose.elim
  | @group stack us t hstack ht _ =>
      exact ⟨trivial, us ++ [t], fs, d, rfl, .group hstack ht, hf.loosen hop⟩
  | @operand stack us ls t op' left dl hstack hloose' hleft ht ih =>
      by_cases hle : op.tightness ≤ op'.tightness
      · -- the waiting operand is joined: what stands to its right is tight enough for that
        have hright : Derives (.within op') fs f d := by
          refine hf.loosen ?_
          rw [Category.tightness_within]
          exact hloose
        have hwhole : Derives (.joined op') (ls ++ t :: fs) (.binary op' left f) (max dl d) :=
          .join ht hleft hright
        have htokens : us ++ ls ++ [t] ++ fs = us ++ (ls ++ t :: fs) := by simp
        rw [htokens, joined, if_pos hle]
        exact ih (c := .joined op') hloose' hwhole hle
      · have hlt : op'.tightness < op.tightness := Nat.not_le.mp hle
        rw [joined, if_neg hle]
        exact ⟨hlt, us ++ ls ++ [t], fs, d, rfl, .operand hstack hloose' hleft ht, hf.loosen hop⟩

theorem Holds.joined {stack : List Frame} {f : Formula} {c : Category} {ts : List Token}
    (h : Holds stack f c ts) (op : Connective) (hop : op.tightness ≤ c.tightness) :
    Holds (Parser.joined op.tightness stack f).1 (Parser.joined op.tightness stack f).2
      (.joined op) ts := by
  obtain ⟨us, fs, d, rfl, hstack, hf⟩ := h.split
  exact holds_joined hstack h.room hf hop

/-- A negation or something tighter, joined as a whole formula. -/
theorem Holds.whole {stack rest : List Frame} {f g : Formula} {ts : List Token}
    (h : Holds stack f .negated ts) (hjoin : Parser.joined 0 stack f = (rest, g)) :
    Holds rest g .whole ts := by
  have hwhole := h.joined .iff (Nat.zero_le _)
  have hiff : Parser.joined Connective.iff.tightness stack f = (rest, g) := hjoin
  rw [hiff] at hwhole
  exact hwhole

/-! ## Steps and runs -/

theorem reads_begin {stack : List Frame} {us : List Token} {t : Token} {next : State}
    (hstack : Spells stack us) (h : State.begin? stack t = some next) : next.Reads (us ++ [t]) := by
  unfold State.begin? at h
  split at h
  · next ht =>
      obtain rfl := Option.some.inj h
      exact reads_negated hstack (.unnegated (.name ht))
  · next ht =>
      obtain rfl := Option.some.inj h
      exact .negation hstack ht
  · next ht =>
      obtain rfl := Option.some.inj h
      exact .group hstack ht
  · exact absurd h (by simp)
  · exact absurd h (by simp)

theorem reads_continue {stack : List Frame} {f : Formula} {us : List Token} {t : Token}
    {next : State} (hf : Holds stack f .negated us) (h : State.continue? stack f t = some next) :
    next.Reads (us ++ [t]) := by
  unfold State.continue? at h
  split at h
  · next op ht =>
      obtain rfl := Option.some.inj h
      have hleft := hf.joined op (Nat.le_of_lt op.tightness_lt)
      obtain ⟨us', ls, d, rfl, hstack, hl⟩ := hleft.split
      exact .operand hstack hleft.room hl ht
  · next ht =>
      split at h
      · next rest inner hjoin =>
          obtain rfl := Option.some.inj h
          obtain ⟨us', fs, d, rfl, hstack, hinner⟩ := (hf.whole hjoin).split
          cases hstack with
          | @group _ us₀ opening hrest hopening =>
              have hgroup : Derives .negated (opening :: fs ++ [t]) inner (d + 1) :=
                .unnegated (.group hopening ht hinner)
              have htokens : us₀ ++ [opening] ++ fs ++ [t] = us₀ ++ (opening :: fs ++ [t]) := by
                simp
              rw [htokens]
              exact reads_negated hrest hgroup
      · exact absurd h (by simp)
  · exact absurd h (by simp)
  · exact absurd h (by simp)
  · exact absurd h (by simp)

/-- One step keeps what the parser answers for, with the token added. -/
theorem State.Reads.step {state next : State} {us : List Token} {t : Token}
    (h : state.Reads us) (hstep : state.step? t = some next) : next.Reads (us ++ [t]) := by
  rcases state with ⟨stack, _ | f⟩
  · exact reads_begin h hstep
  · exact reads_continue h hstep

/-- After any run the parser answers for all the tokens it has read. -/
theorem State.Reads.run {state last : State} {us ts : List Token} (h : state.Reads us)
    (hrun : state.run ts = .ok last) : last.Reads (us ++ ts) := by
  induction ts generalizing state us with
  | nil =>
      rw [List.append_nil]
      exact Except.ok.inj hrun ▸ h
  | cons t ts ih =>
      rw [State.run] at hrun
      split at hrun
      · next next hstep =>
          have hnext := ih (h.step hstep) hrun
          rwa [List.append_assoc] at hnext
      · exact absurd hrun (by simp)

theorem reads_of_run_start {state : State} {ts : List Token}
    (hrun : State.start.run ts = .ok state) : state.Reads ts := by
  have hstart : State.start.Reads [] := Spells.empty
  exact hstart.run hrun

/-- A formula that the parser has at the end is derived from the tokens it read. -/
theorem State.Reads.derives {state : State} {ts : List Token} {f : Formula} (h : state.Reads ts)
    (hresult : state.result? = some f) : ∃ d, Derives .whole ts f d := by
  rcases state with ⟨stack, _ | g⟩
  · exact absurd hresult (by simp [State.result?])
  · simp only [State.result?] at hresult
    split at hresult
    · next whole hjoin =>
        obtain rfl := Option.some.inj hresult
        obtain ⟨us, fs, d, rfl, hstack, hf⟩ := (Holds.whole h hjoin).split
        cases hstack
        exact ⟨d, hf⟩
    · exact absurd hresult (by simp)

/-- The parser ends with a formula exactly if the grammar derives that formula. -/
theorem run_start_result_iff {ts : List Token} {f : Formula} :
    (∃ state, State.start.run ts = .ok state ∧ state.result? = some f) ↔
      ∃ d, Derives .whole ts f d := by
  constructor
  · rintro ⟨state, hrun, hresult⟩
    exact (reads_of_run_start hrun).derives hresult
  · rintro ⟨d, h⟩
    exact run_start_of_derives h

end Sentential.Parser
