/-
# Sentential.Proofs.Parser.Completion -- what repairs a text that ends too early

At the end of a text the parser's stack is forgotten: parentheses are counted over all tokens, and
the last token is looked at. Both agree with the stack. By as many as the opening parentheses are
ahead, so many groups are open on it; and the parser has an operand exactly if the tokens end with a
name or a closing parenthesis. So an unclosed group is reported with the number of parentheses that
close everything, which no shorter repair does, and a missing operand is reported where parentheses
alone repair nothing.
-/
import Sentential.Proofs.Grammar.Balance
import Sentential.Proofs.Parser.Recognition

namespace Sentential

open Sentential.Parser (countKind)

/-! ## The last token -/

/-- The tokens end with a name or a closing parenthesis. -/
def EndsOperand (ts : List Token) : Prop :=
  ∃ last, ts.getLast? = some last ∧ (last.kind = .identifier ∨ last.kind = .closing)

theorem TokenKind.endsOperand_iff {kind : TokenKind} :
    kind.endsOperand ↔ kind = .identifier ∨ kind = .closing := by
  cases kind <;> simp [endsOperand]

theorem endsOperand_concat {us : List Token} {t : Token} :
    EndsOperand (us ++ [t]) ↔ t.kind = .identifier ∨ t.kind = .closing := by
  simp [EndsOperand]

theorem EndsOperand.append {ts : List Token} (h : EndsOperand ts) (us : List Token) :
    EndsOperand (us ++ ts) := by
  obtain ⟨last, hlast, hkind⟩ := h
  refine ⟨last, ?_, hkind⟩
  rw [List.getLast?_append, hlast]
  rfl

/-- A derivation ends with an operand. -/
theorem Derives.endsOperand {c : Category} {ts : List Token} {f : Formula} {d : Nat}
    (h : Derives c ts f d) : EndsOperand ts := by
  induction h with
  | name ht => exact ⟨_, rfl, .inl ht⟩
  | group _ hclosing _ _ => exact endsOperand_concat.mpr (.inr hclosing)
  | @negation t _ _ _ _ _ ih => exact ih.append [t]
  | @join _ t ls _ _ _ _ _ _ _ _ _ ihr => exact (ihr.append [t]).append ls
  | unjoined _ ih => exact ih
  | unnegated _ ih => exact ih

theorem WellFormed.endsOperand {ts : List Token} (h : WellFormed ts) : EndsOperand ts := by
  obtain ⟨f, d, hf⟩ := h
  exact hf.endsOperand

theorem WellFormed.balanced {ts : List Token} (h : WellFormed ts) :
    countKind .opening ts = countKind .closing ts := by
  obtain ⟨f, d, hf⟩ := h
  exact hf.balanced

/-! ## The stack behind the count and the last token -/

namespace Parser

/-- The opening parentheses are ahead by the number of groups on the stack. -/
theorem Spells.countKind_opening {stack : List Frame} {us : List Token} (h : Spells stack us) :
    countKind .opening us = countKind .closing us + stack.count .group := by
  induction h with
  | empty => rfl
  | negation _ ht ih => simp [ht, ih]
  | group _ ht ih =>
      simp [ht, ih]
      omega
  | operand _ _ hleft ht ih =>
      have hbalanced := hleft.balanced
      simp [ht, ih, hbalanced]
      omega

theorem Holds.countKind_opening {stack : List Frame} {f : Formula} {c : Category}
    {ts : List Token} (h : Holds stack f c ts) :
    countKind .opening ts = countKind .closing ts + stack.count .group := by
  obtain ⟨us, fs, d, rfl, hstack, hf⟩ := h.split
  have hopening := hstack.countKind_opening
  have hbalanced := hf.balanced
  rw [countKind_append, countKind_append]
  omega

theorem State.Reads.countKind_opening {state : State} {ts : List Token} (h : state.Reads ts) :
    countKind .opening ts = countKind .closing ts + state.stack.count .group := by
  rcases state with ⟨stack, _ | f⟩
  · exact Spells.countKind_opening h
  · exact Holds.countKind_opening h

/-- What waits for an operand does not end with one. -/
theorem Spells.not_endsOperand {stack : List Frame} {us : List Token} (h : Spells stack us) :
    ¬ EndsOperand us := by
  cases h with
  | empty => simp [EndsOperand]
  | negation _ ht => simp [endsOperand_concat, ht]
  | group _ ht => simp [endsOperand_concat, ht]
  | operand _ _ _ ht =>
      rw [endsOperand_concat]
      simp [ht]

theorem Holds.endsOperand {stack : List Frame} {f : Formula} {c : Category} {ts : List Token}
    (h : Holds stack f c ts) : EndsOperand ts := by
  obtain ⟨us, fs, d, rfl, -, hf⟩ := h.split
  exact hf.endsOperand.append us

/-- The parser has an operand exactly if the tokens end with one. -/
theorem State.Reads.endsOperand_iff {state : State} {ts : List Token} (h : state.Reads ts) :
    EndsOperand ts ↔ state.current.isSome := by
  rcases state with ⟨stack, _ | f⟩
  · exact iff_of_false (Spells.not_endsOperand h) (by simp)
  · exact iff_of_true (Holds.endsOperand h) rfl

/-! ## The fault at the end -/

theorem endFault_of_endsOperand {ts : List Token} {opened : Nat} (h : EndsOperand ts)
    (hopened : countKind .opening ts = countKind .closing ts + opened) (hpos : 1 ≤ opened) :
    endFault ts = .unclosedGroups opened := by
  obtain ⟨last, hlast, hkind⟩ := h
  have hahead : countKind .closing ts < countKind .opening ts := by omega
  rw [endFault, hlast]
  dsimp only
  rw [if_pos ⟨hahead, TokenKind.endsOperand_iff.mpr hkind⟩, hopened, Nat.add_sub_cancel_left]

theorem endFault_of_not_endsOperand {ts : List Token} {last : Token}
    (hlast : ts.getLast? = some last) (h : ¬ EndsOperand ts) :
    endFault ts = .missingOperand last.text := by
  have hends : ¬ last.kind.endsOperand := fun hends =>
    h ⟨last, hlast, TokenKind.endsOperand_iff.mp hends⟩
  rw [endFault, hlast]
  dsimp only
  rw [if_neg fun hboth => hends hboth.2]

end Parser

/-! ## Repairs -/

/-- The tokens are that many closing parentheses and nothing else. -/
def AreClosings (count : Nat) (ts : List Token) : Prop :=
  ts.length = count ∧ ∀ t ∈ ts, t.kind = .closing

section Viable

variable {ts : List Token}

/-- The parser's account of a beginning of a formula. -/
theorem Viable.exists_reads (h : Viable ts) :
    ∃ state : Parser.State, state.Reads ts := by
  obtain ⟨state, hrun⟩ := Parser.run_start_ok_iff_viable.mpr h
  exact ⟨state, Parser.reads_of_run_start hrun⟩

/-- The closing parentheses are never ahead. -/
theorem Viable.exists_opened (h : Viable ts) :
    ∃ opened, countKind .opening ts = countKind .closing ts + opened := by
  obtain ⟨state, hreads⟩ := h.exists_reads
  exact ⟨_, hreads.countKind_opening⟩

variable {closings : List Token} {opened : Nat}
  (hopened : countKind .opening ts = countKind .closing ts + opened)
  (hclosings : AreClosings opened closings)

include hopened hclosings

/-- After an operand, closing every open group completes a formula. -/
theorem Viable.wellFormed_append_closings (h : Viable ts) (hends : EndsOperand ts) :
    WellFormed (ts ++ closings) := by
  obtain ⟨⟨stack, current⟩, hreads⟩ := h.exists_reads
  have hcount := hreads.countKind_opening
  obtain ⟨f, rfl⟩ := Option.isSome_iff_exists.mp (hreads.endsOperand_iff.mp hends)
  refine Parser.Holds.wellFormed_append hreads hclosings.2 ?_
  rw [hclosings.1]
  exact Nat.add_left_cancel (hopened.symm.trans hcount)

/-- Anywhere else, a name and then closing every open group completes a formula. -/
theorem Viable.wellFormed_append_name (h : Viable ts) (hends : ¬ EndsOperand ts) {name : Token}
    (hname : name.kind = .identifier) : WellFormed (ts ++ name :: closings) := by
  obtain ⟨⟨stack, current⟩, hreads⟩ := h.exists_reads
  have hcount := hreads.countKind_opening
  obtain rfl : current = none := by simpa using mt hreads.endsOperand_iff.mpr hends
  refine Parser.Spells.wellFormed_append hreads hname hclosings.2 ?_
  rw [hclosings.1]
  exact Nat.add_left_cancel (hopened.symm.trans hcount)

end Viable

/-- A beginning of a formula that ends with an operand is a formula itself if no group is open. -/
theorem Viable.wellFormed_iff {ts : List Token} {opened : Nat} (h : Viable ts)
    (hopened : countKind .opening ts = countKind .closing ts + opened) (hends : EndsOperand ts) :
    WellFormed ts ↔ opened = 0 := by
  constructor
  · intro hformed
    have hbalanced := hformed.balanced
    omega
  · rintro rfl
    have hdone := h.wellFormed_append_closings hopened ⟨List.length_nil, by simp⟩ hends
    rwa [List.append_nil] at hdone

/-- A repair closes all groups that are open before it, and so is at least as long as they are
many. -/
theorem WellFormed.opened_le {ts rest : List Token} {opened : Nat} (h : WellFormed (ts ++ rest))
    (hopened : countKind .opening ts = countKind .closing ts + opened) : opened ≤ rest.length := by
  have hbalanced := h.balanced
  have hclosing : countKind .closing rest ≤ rest.length := List.countP_le_length
  rw [Parser.countKind_append, Parser.countKind_append] at hbalanced
  omega

/-- Where an operand is wanted no formula goes on with a closing parenthesis. -/
theorem not_viable_concat_closing {ts : List Token} {t : Token} (h : ¬ EndsOperand ts)
    (ht : t.kind = .closing) : ¬ Viable (ts ++ [t]) := by
  intro hviable
  obtain ⟨last, hrun⟩ := Parser.run_start_ok_iff_viable.mpr hviable
  obtain ⟨⟨stack, current⟩, hstate⟩ := Parser.run_start_ok_iff_viable.mpr hviable.of_append
  have hreads := Parser.reads_of_run_start hstate
  obtain rfl : current = none := by simpa using mt hreads.endsOperand_iff.mpr h
  rw [Parser.State.run_append_of_ok hstate] at hrun
  simp [Parser.State.run, Parser.State.step?, Parser.State.begin?, ht] at hrun

/-- So no number of closing parentheses repairs anything there. -/
theorem not_wellFormed_append_closings {ts closings : List Token} (h : ¬ EndsOperand ts)
    (hclosings : ∀ t ∈ closings, t.kind = .closing) : ¬ WellFormed (ts ++ closings) := by
  intro hformed
  cases closings with
  | nil =>
      rw [List.append_nil] at hformed
      exact h hformed.endsOperand
  | cons t rest =>
      have hviable : Viable (ts ++ [t]) := ⟨rest, by rwa [List.append_assoc]⟩
      exact not_viable_concat_closing h (hclosings t (List.mem_cons_self ..)) hviable

/-! ## What is said at the end of a text -/

section Outcome

variable {text : String} {opened : Nat} (hscan : (scan text).illegal = none)
  (hviable : Viable (scan text).tokens)

include hscan hviable

/-- A beginning of a formula that is none is refused for ending too early. -/
theorem parse_of_viable (hnot : ¬ WellFormed (scan text).tokens) (limit : Limit) :
    (parse (some text) limit).outcome = .error (Parser.endFault (scan text).tokens) := by
  rw [parse_eq_error_iff hscan hnot]
  exact Reader.formula_of_viable hviable hnot

/-- After an operand the groups that are open are reported, unless there are none. -/
theorem parse_of_endsOperand (hends : EndsOperand (scan text).tokens)
    (hopened : countKind .opening (scan text).tokens =
      countKind .closing (scan text).tokens + opened) (limit : Limit) :
    opened = 0 ∧ WellFormed (scan text).tokens ∨
      1 ≤ opened ∧ (parse (some text) limit).outcome = .error (.unclosedGroups opened) := by
  have hformed := hviable.wellFormed_iff hopened hends
  rcases Nat.eq_zero_or_pos opened with hzero | hpos
  · exact .inl ⟨hzero, hformed.mpr hzero⟩
  · refine .inr ⟨hpos, ?_⟩
    rw [parse_of_viable hscan hviable (mt hformed.mp (Nat.ne_of_gt hpos)),
      Parser.endFault_of_endsOperand hends hopened hpos]

/-- Anywhere else the missing operand is reported, with the token in front of it. -/
theorem parse_of_not_endsOperand {last : Token} (hlast : (scan text).tokens.getLast? = some last)
    (hends : ¬ EndsOperand (scan text).tokens) (limit : Limit) :
    (parse (some text) limit).outcome = .error (.missingOperand last.text) := by
  rw [parse_of_viable hscan hviable fun hformed => hends hformed.endsOperand,
    Parser.endFault_of_not_endsOperand hlast hends]

/-- No operand is missing after an operand. -/
theorem not_endsOperand_of_name {limit : Int} {fault : Fault}
    (hfault : (parse (some text) limit).outcome = .error fault)
    (hname : fault.name = "UnexpectedEndError") : ¬ EndsOperand (scan text).tokens := by
  intro hends
  obtain ⟨opened, hopened⟩ := hviable.exists_opened
  rcases parse_of_endsOperand hscan hviable hends hopened limit with ⟨-, f, d, hf⟩ | ⟨-, houtcome⟩
  · -- a formula can only be nested too deep
    rw [parse_eq_interpret hscan, Reader.interpret_of_derives hf] at hfault
    split at hfault
    · obtain rfl := Except.error.inj hfault
      exact absurd hname (by simp [Fault.name])
    · exact absurd hfault (by simp)
  · obtain rfl := Except.error.inj (hfault.symm.trans houtcome)
    exact absurd hname (by simp [Fault.name])

end Outcome

/-- A text whose tokens can be the beginning of a formula opens no fewer groups than it closes. If
it is empty, that is said. If it ends with an operand, closing what is open completes it and nothing
shorter does, and unless it is complete already, it is refused with the number of open groups. If it
ends otherwise, it is refused with its last token, a name and closing what is open complete it, and
closing parentheses alone never do. After an operand none is said to be missing. -/
theorem end_faults_name_the_repair {text : String} {ts : List Token} (limit : Int)
    (hscan : (scan text).illegal = none) (hts : (scan text).tokens = ts) (hviable : Viable ts) :
    let outcome := (parse (some text) limit).outcome
    ∃ opened, countKind .opening ts = countKind .closing ts + opened ∧
      (ts = [] → ∃ fault, outcome = .error fault ∧ fault.name = "UnexpectedEndError" ∧
        fault.message = "Input formula is empty.") ∧
      (EndsOperand ts →
        (∀ closings, AreClosings opened closings → WellFormed (ts ++ closings)) ∧
        (∀ rest, WellFormed (ts ++ rest) → opened ≤ rest.length) ∧
        (opened = 0 ∧ WellFormed ts ∨
          1 ≤ opened ∧ outcome = .error (.unclosedGroups opened))) ∧
      (∀ last, ts.getLast? = some last → ¬ EndsOperand ts →
        (∃ fault, outcome = .error fault ∧ fault.name = "UnexpectedEndError" ∧ fault.message =
          "Unexpected end of input: expected an operand after '" ++ last.text ++ "'") ∧
        (∀ name closings, name.kind = .identifier → AreClosings opened closings →
          WellFormed (ts ++ name :: closings)) ∧
        ∀ count closings, AreClosings count closings → ¬ WellFormed (ts ++ closings)) ∧
      ∀ fault, outcome = .error fault → fault.name = "UnexpectedEndError" →
        ¬ EndsOperand ts := by
  subst hts
  intro outcome
  obtain ⟨opened, hopened⟩ := hviable.exists_opened
  refine ⟨opened, hopened, ?_, ?_, ?_, ?_⟩
  · intro hempty
    have hends : ¬ EndsOperand (scan text).tokens := by simp [hempty, EndsOperand]
    have houtcome := parse_of_viable hscan hviable (mt WellFormed.endsOperand hends) limit
    rw [hempty] at houtcome
    exact ⟨_, houtcome, rfl, rfl⟩
  · intro hends
    refine ⟨?_, ?_, parse_of_endsOperand hscan hviable hends hopened limit⟩
    · intro closings hclosings
      exact hviable.wellFormed_append_closings hopened hclosings hends
    · intro rest hformed
      exact hformed.opened_le hopened
  · intro last hlast hends
    refine ⟨⟨_, parse_of_not_endsOperand hscan hviable hlast hends limit, rfl, rfl⟩, ?_, ?_⟩
    · intro name closings hname hclosings
      exact hviable.wellFormed_append_name hopened hclosings hends hname
    · intro count closings hclosings
      exact not_wellFormed_append_closings hends hclosings.2
  · intro fault hfault hname
    exact not_endsOperand_of_name hscan hviable hfault hname

/-- Three groups are open after the second operand. Without it and its group, a name and two closing
parentheses are missing. -/
theorem unclosed_groups_and_dangling_implication :
    let closing : Token := ⟨.closing, ")", 0⟩
    let us := (scan "((A => (B").tokens
    let vs := (scan "((A =>").tokens
    (Viable us ∧ WellFormed (us ++ [closing, closing, closing]) ∧
      (∀ rest, WellFormed (us ++ rest) → 3 ≤ rest.length) ∧
      (parse (some "((A => (B") (200 : Int)).outcome = .error (.unclosedGroups 3)) ∧
    (Viable vs ∧ WellFormed (vs ++ [⟨.identifier, "B", 0⟩, closing, closing]) ∧
      ¬ WellFormed (vs ++ [closing, closing]) ∧
      ∃ fault, (parse (some "((A =>") (200 : Int)).outcome = .error fault ∧
        fault.message = "Unexpected end of input: expected an operand after '=>'") := by
  intro closing us vs
  have hus : Viable us := Parser.run_start_ok_iff_viable.mp ⟨_, rfl⟩
  have hvs : Viable vs := Parser.run_start_ok_iff_viable.mp ⟨_, rfl⟩
  refine ⟨⟨hus, ?_⟩, ⟨hvs, ?_⟩⟩
  · obtain ⟨opened, hopened, -, hoperand, -⟩ := end_faults_name_the_repair 200 rfl rfl hus
    obtain rfl : opened = 3 := (Nat.add_left_cancel (n := 0) hopened).symm
    obtain ⟨hclosed, hleast, ⟨hzero, -⟩ | ⟨-, houtcome⟩⟩ := hoperand ⟨_, rfl, .inl rfl⟩
    · exact absurd hzero (by decide)
    · exact ⟨hclosed _ ⟨rfl, by decide⟩, hleast, houtcome⟩
  · obtain ⟨opened, hopened, -, -, hother, -⟩ := end_faults_name_the_repair 200 rfl rfl hvs
    obtain rfl : opened = 2 := (Nat.add_left_cancel (n := 0) hopened).symm
    have hends : ¬ EndsOperand (vs.dropLast ++ [⟨.connective .implies, "=>", 4⟩]) := by
      rw [endsOperand_concat]
      decide
    obtain ⟨⟨fault, houtcome, -, hmessage⟩, hnamed, hnever⟩ := hother _ rfl hends
    exact ⟨hnamed _ _ rfl ⟨rfl, by decide⟩, hnever 2 _ ⟨rfl, by decide⟩, fault, houtcome, hmessage⟩

/-- A name alone is the beginning of a longer formula and ends with an operand, but no group is
open: it is a formula, and is read as one. -/
theorem name_alone_leaves_no_group_open :
    let ts := (scan "A").tokens
    (scan "A").illegal = none ∧ (∃ rest, rest ≠ [] ∧ WellFormed (ts ++ rest)) ∧ EndsOperand ts ∧
    (¬ ∃ opened, countKind .opening ts = countKind .closing ts + opened ∧ 1 ≤ opened) ∧
    (parse (some "A") (200 : Int)).outcome = .ok (.var "A") := by
  intro ts
  let rest : List Token := [⟨.connective .and, "&", 2⟩, ⟨.identifier, "B", 4⟩]
  have hformula : Reader.formula ⟨.blank, ts ++ rest⟩ =
      .ok (.binary .and (.var "A") (.var "B")) := rfl
  obtain ⟨d, hd⟩ := Reader.formula_eq_ok_iff.mp hformula
  refine ⟨rfl, ⟨rest, by simp [rest], _, d, hd⟩, ⟨_, rfl, .inl rfl⟩, ?_, rfl⟩
  rintro ⟨opened, hopened, hpos⟩
  have hnone : countKind .opening ts = 0 := rfl
  omega

end Sentential
