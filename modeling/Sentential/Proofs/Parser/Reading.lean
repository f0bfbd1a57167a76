/-
# Sentential.Proofs.Parser.Reading -- what becomes of a text that is read

A text with an illegal character is refused for that character. Any other text is judged by its
tokens alone: they make a formula, or the fault lies with the first token that no formula can go on
with, or they end too early; and only a formula can be nested too deep. The statements here give
the outcome in each of these cases.
-/
import Sentential.Parser.Reader
import Sentential.Proofs.Grammar.Nesting
import Sentential.Proofs.Parser.Prefixes

namespace Sentential

/-! ## Kinds of faults -/

/-- The fault lies in the order of the tokens. -/
def Fault.IsSyntactic : Fault → Prop
  | .unexpectedToken _ => True
  | .emptyFormula => True
  | .missingOperand _ => True
  | .unclosedGroups _ => True
  | _ => False

/-- The token that a fault points at. -/
def Fault.token? : Fault → Option Token
  | .unexpectedToken t => some t
  | _ => none

/-- A fault of a formula's own is reported as it is. -/
theorem reported_error {fault : Fault} (h : fault.isFormulaFault) :
    reported (.error fault) = .error fault := by
  rw [reported, if_pos h]

theorem reported_ok_iff {outcome : Except Fault Formula} {f : Formula} :
    reported outcome = .ok f ↔ outcome = .ok f := by
  cases outcome with
  | ok g => rfl
  | error fault => simp [reported]

/-- A fault is reported as it is or as one of an unreadable text. -/
theorem of_reported_eq_error {outcome : Except Fault Formula} {fault : Fault}
    (h : reported outcome = .error fault) :
    ∃ found, outcome = .error found ∧
      (found.isFormulaFault ∧ fault = found ∨ fault = .unreadable found.message) := by
  cases outcome with
  | ok f => exact absurd h (by simp [reported])
  | error found =>
      obtain rfl := Except.error.inj h
      refine ⟨found, rfl, ?_⟩
      split
      · next hformula => exact .inl ⟨hformula, rfl⟩
      · exact .inr rfl

namespace Parser

/-- What a text that ends too early is told, whatever its tokens. -/
theorem endFault_spec (ts : List Token) :
    (endFault ts).IsSyntactic ∧ (endFault ts).isFormulaFault ∧ (endFault ts).token? = none ∧
      (endFault ts).name ∈ ["UnexpectedEndError", "MissingParenthesisError"] := by
  unfold endFault
  split
  · exact ⟨trivial, rfl, rfl, by decide⟩
  · dsimp only
    split
    · exact ⟨trivial, rfl, rfl, by simp [Fault.name]⟩
    · exact ⟨trivial, rfl, rfl, by simp [Fault.name]⟩

end Parser

/-! ## The tokens of a text -/

theorem tokenize_outcome (text : String) :
    (tokenize (some text)).outcome =
      match (scan text).illegal with
      | none => .ok (scan text).tokens
      | some c => .error (.illegalCharacter c (scan text).stop) := by
  simp only [tokenize]
  cases (scan text).illegal with
  | none => rfl
  | some c => rfl

/-- A text that is scanned to its end is judged by its tokens. -/
theorem parse_of_scan {text : String} (h : (scan text).illegal = none) (limit : Limit) :
    (parse (some text) limit).outcome =
      reported (Reader.interpret ⟨limit, (scan text).tokens⟩).outcome := by
  have htokens := tokenize_outcome text
  rw [h] at htokens
  simp only [parse, Reader.read, Reader.new]
  split
  · next scanned hscanned =>
      rw [htokens] at hscanned
      obtain rfl := Except.ok.inj hscanned
      simp only [Script.outcome_bind, Script.outcome_detail, htokens]
      rfl
  · next fault hfault =>
      rw [htokens] at hfault
      exact absurd hfault (by simp)

/-- A text that is not scanned to its end is refused at the place where the scan stops. -/
theorem parse_of_illegal {text : String} {c : Char} (h : (scan text).illegal = some c)
    (limit : Limit) :
    (parse (some text) limit).outcome = .error (.illegalCharacter c (scan text).stop) := by
  have htokens := tokenize_outcome text
  rw [h] at htokens
  simp only [parse, Reader.read, Reader.new]
  split
  · next scanned hscanned =>
      rw [htokens] at hscanned
      exact absurd hscanned (by simp)
  · next fault hfault =>
      rw [htokens] at hfault
      obtain rfl := Except.error.inj hfault
      simp only [Script.outcome_bind, Script.outcome_detail, htokens]
      rfl

/-! ## The outcome of reading tokens -/

namespace Reader

theorem interpret_outcome (reader : Reader) :
    reader.interpret.outcome = reader.formula.bind fun f => reader.depth.map fun _ => f := by
  simp only [interpret, Script.outcome_bind, Script.outcome_ofExcept, Script.outcome_detail,
    Script.outcome_pure]
  cases reader.formula with
  | error fault => rfl
  | ok f => cases reader.depth <;> rfl

/-- Tokens that the grammar derives make the formula of their derivation, and no other. -/
theorem formula_eq_ok_iff {reader : Reader} {f : Formula} :
    reader.formula = .ok f ↔ ∃ d, Derives .whole reader.scanned f d := by
  rw [← Parser.run_start_result_iff, formula]
  cases hrun : Parser.State.start.run reader.scanned with
  | error t => simp
  | ok state => cases hresult : state.result? <;> simp [hresult]

/-- Tokens that a formula can begin with, and that are none, end too early. -/
theorem formula_of_viable {reader : Reader} (hviable : Viable reader.scanned)
    (hnot : ¬ WellFormed reader.scanned) :
    reader.formula = .error (Parser.endFault reader.scanned) := by
  obtain ⟨state, hrun⟩ := Parser.run_start_ok_iff_viable.mpr hviable
  rw [formula, hrun]
  cases hresult : state.result? with
  | none => simp only [hresult]
  | some f =>
      obtain ⟨d, hf⟩ := Parser.run_start_result_iff.mp ⟨state, hrun, hresult⟩
      exact absurd ⟨f, d, hf⟩ hnot

/-- The first token that no formula can go on with is the one that is unexpected. -/
theorem formula_eq_unexpected_iff {reader : Reader} {t : Token} :
    reader.formula = .error (.unexpectedToken t) ↔
      ∃ us vs, reader.scanned = us ++ t :: vs ∧ Viable us ∧ ¬ Viable (us ++ [t]) := by
  rw [← Parser.run_start_eq_error_iff, formula]
  cases hrun : Parser.State.start.run reader.scanned with
  | error u => simp
  | ok state =>
      cases hresult : state.result? with
      | some f => simp [hresult]
      | none =>
          have hend := (Parser.endFault_spec reader.scanned).2.2.1
          simp only [hresult, Except.error.injEq, reduceCtorEq, iff_false]
          intro heq
          rw [heq] at hend
          exact absurd hend (by simp [Fault.token?])

/-- Tokens that make no formula are refused with a fault of their order. -/
theorem formula_of_not_wellFormed (reader : Reader) (hnot : ¬ WellFormed reader.scanned) :
    ∃ fault, reader.formula = .error fault ∧ fault.IsSyntactic ∧ fault.isFormulaFault := by
  by_cases hviable : Viable reader.scanned
  · obtain ⟨hsyntactic, hformula, _⟩ := Parser.endFault_spec reader.scanned
    exact ⟨_, formula_of_viable hviable hnot, hsyntactic, hformula⟩
  · cases hrun : Parser.State.start.run reader.scanned with
    | ok state => exact absurd (Parser.run_start_ok_iff_viable.mp ⟨state, hrun⟩) hviable
    | error t =>
        refine ⟨.unexpectedToken t, ?_, trivial, rfl⟩
        rw [formula, hrun]

theorem interpret_of_error {reader : Reader} {fault : Fault} (h : reader.formula = .error fault) :
    reader.interpret.outcome = .error fault := by
  rw [interpret_outcome, h]
  rfl

/-- The check of the depth does not change the formula. -/
theorem formula_of_interpret {reader : Reader} {f : Formula}
    (h : reader.interpret.outcome = .ok f) : reader.formula = .ok f := by
  rw [interpret_outcome] at h
  cases hformula : reader.formula with
  | error fault =>
      rw [hformula] at h
      exact absurd h (by simp [Except.bind])
  | ok g =>
      rw [hformula] at h
      cases hdepth : reader.depth with
      | error fault =>
          rw [hdepth] at h
          exact absurd h (by simp [Except.bind, Except.map])
      | ok d =>
          rw [hdepth] at h
          exact h

/-- A formula passes unless it is nested deeper than the limit. -/
theorem interpret_of_derives {limit : Int} {ts : List Token} {f : Formula} {d : Nat}
    (h : Derives .whole ts f d) :
    (interpret ⟨limit, ts⟩).outcome =
      if limit < d then .error (.nestedTooDeep d limit) else .ok f := by
  have hformula : formula ⟨limit, ts⟩ = .ok f := formula_eq_ok_iff.mpr ⟨d, h⟩
  rw [interpret_outcome, hformula, depth, nestingDepth?_of_derives h]
  simp only [Limit.check]
  by_cases hlimit : limit < d
  · rw [if_pos hlimit, if_pos hlimit]
    rfl
  · rw [if_neg hlimit, if_neg hlimit]
    rfl

end Reader

/-- A formula that is read from a text is derived from its tokens. -/
theorem derives_of_parse {source : Source} {limit : Limit} {f : Formula}
    (h : (parse source limit).outcome = .ok f) :
    ∃ text d, source = some text ∧ (scan text).illegal = none ∧
      Derives .whole (scan text).tokens f d := by
  cases source with
  | none =>
      have habsent : (parse none limit).outcome = .error (.unreadable Fault.missingText.message) :=
        rfl
      rw [habsent] at h
      exact absurd h (by simp)
  | some text =>
      cases hscan : (scan text).illegal with
      | some c =>
          rw [parse_of_illegal hscan] at h
          exact absurd h (by simp)
      | none =>
          rw [parse_of_scan hscan, reported_ok_iff] at h
          obtain ⟨d, hf⟩ := Reader.formula_eq_ok_iff.mp (Reader.formula_of_interpret h)
          exact ⟨text, d, rfl, hscan, hf⟩

/-- The names of a formula are the texts of its identifiers. -/
theorem Derives.exists_token {c : Category} {ts : List Token} {f : Formula} {d : Nat}
    (h : Derives c ts f d) :
    ∀ name ∈ f.leaves, ∃ t ∈ ts, t.kind = .identifier ∧ t.text = name := by
  induction h with
  | @name t ht =>
      intro name hname
      exact ⟨t, List.mem_singleton_self t, ht, (List.mem_singleton.mp hname).symm⟩
  | group _ _ _ ih =>
      intro name hname
      obtain ⟨t, ht, hkind, htext⟩ := ih name hname
      exact ⟨t, List.mem_append_left _ (List.mem_cons_of_mem _ ht), hkind, htext⟩
  | negation _ _ ih =>
      intro name hname
      obtain ⟨t, ht, hkind, htext⟩ := ih name hname
      exact ⟨t, List.mem_cons_of_mem _ ht, hkind, htext⟩
  | join _ _ _ ihl ihr =>
      intro name hname
      rcases List.mem_append.mp hname with hname | hname
      · obtain ⟨t, ht, hkind, htext⟩ := ihl name hname
        exact ⟨t, List.mem_append_left _ ht, hkind, htext⟩
      · obtain ⟨t, ht, hkind, htext⟩ := ihr name hname
        exact ⟨t, List.mem_append_right _ (List.mem_cons_of_mem _ ht), hkind, htext⟩
  | unjoined _ ih => exact ih
  | unnegated _ ih => exact ih

/-- The tokens make at most one formula, nested in one way. -/
theorem Derives.unique {ts : List Token} {f f' : Formula} {d d' : Nat}
    (h : Derives .whole ts f d) (h' : Derives .whole ts f' d') : f = f' ∧ d = d' := by
  have hformula : Reader.formula ⟨.blank, ts⟩ = .ok f := Reader.formula_eq_ok_iff.mpr ⟨d, h⟩
  have hformula' : Reader.formula ⟨.blank, ts⟩ = .ok f' := Reader.formula_eq_ok_iff.mpr ⟨d', h'⟩
  have hdepth := nestingDepth?_of_derives h
  have hdepth' := nestingDepth?_of_derives h'
  rw [hformula] at hformula'
  rw [hdepth] at hdepth'
  exact ⟨Except.ok.inj hformula', Option.some.inj hdepth'⟩

end Sentential
