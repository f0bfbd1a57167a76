/-
# Sentential.Proofs.Analysis.Stages -- which stage decides an analysis

A text passes four stages on its way to an analysis: it is scanned to its end, its tokens make a
formula, the formula is not nested too deep, and it has not too many variables. A text can be wrong
in several of these ways at once. The first stage that it fails has the say, whatever the later ones
would find; a text that fails none has its analysis. There is no other way to fail, as the stacks
of the parser, the count of nesting and the evaluator never run empty and the rows of a table give
every variable a value.
-/
import Sentential.Proofs.Analysis.Outcome
import Sentential.Proofs.Parser.Recognition

namespace Sentential

/-- The faults of the order of tokens, by name. -/
theorem Fault.isSyntactic_iff {fault : Fault} :
    fault.IsSyntactic ↔
      fault.name ∈ ["UnexpectedTokenError", "UnexpectedEndError", "MissingParenthesisError"] := by
  cases fault <;> simp [IsSyntactic, name]

theorem TruthTable.name_excess (count : Nat) (limit : Int) :
    (excess count limit).name ∈ ["TooManyVariablesError", "OverflowError"] := by
  unfold excess
  split
  · exact List.mem_cons_self ..
  · exact List.mem_cons_of_mem _ (List.mem_cons_self ..)

namespace Analysis

variable {text : String} {maxVariables maxDepth : Int} {fault : Fault}

/-! ## One stage after the other -/

/-- A text that cannot be scanned to its end is refused where the scan stops. -/
theorem run_of_illegal {c : Char} (hscan : (scan text).illegal = some c)
    (maxVariables maxDepth : Limit) :
    (run (some text) maxVariables maxDepth).outcome =
      .error (.illegalCharacter c (scan text).stop) := by
  rw [run_outcome, parse_of_illegal hscan]
  rfl

/-- A text whose tokens make no formula is refused for their order. -/
theorem run_of_not_wellFormed (hscan : (scan text).illegal = none)
    (hnot : ¬ WellFormed (scan text).tokens) (maxVariables maxDepth : Limit) :
    ∃ fault, (run (some text) maxVariables maxDepth).outcome = .error fault ∧
      fault.IsSyntactic := by
  obtain ⟨fault, hfault, hsyntactic, -⟩ :=
    Reader.formula_of_not_wellFormed ⟨maxDepth, (scan text).tokens⟩ hnot
  have hparse := (parse_eq_error_iff hscan hnot maxDepth fault).mpr hfault
  refine ⟨fault, ?_, hsyntactic⟩
  rw [run_outcome, hparse]
  rfl

/-- A formula is refused for its depth first and for its variables second. -/
theorem run_of_derives {f : Formula} {d : Nat} (hscan : (scan text).illegal = none)
    (hf : Derives .whole (scan text).tokens f d) (maxVariables maxDepth : Int) :
    (run (some text) maxVariables maxDepth).outcome =
      if maxDepth < d then .error (.nestedTooDeep d maxDepth)
      else if maxVariables < f.leaves.toFinset.card then
        .error (TruthTable.excess f.leaves.toFinset.card maxVariables)
      else .ok (complete (some text) f) := by
  rw [run_outcome, parse_eq_interpret hscan, Reader.interpret_of_derives hf]
  by_cases hdepth : maxDepth < d
  · rw [if_pos hdepth, if_pos hdepth]
    rfl
  · rw [if_neg hdepth, if_neg hdepth]
    show (Limit.check f.vars.length _ (.whole maxVariables)).map _ = _
    rw [Limit.check, f.length_vars]
    by_cases hcount : maxVariables < f.leaves.toFinset.card
    · rw [if_pos hcount, if_pos hcount]
      rfl
    · rw [if_neg hcount, if_neg hcount]
      rfl

/-! ## The names of the faults -/

/-- The names of what can be wrong with a text whose tokens make no formula. -/
theorem name_of_not_wellFormed (hscan : (scan text).illegal = none)
    (hnot : ¬ WellFormed (scan text).tokens)
    (h : (run (some text) maxVariables maxDepth).outcome = .error fault) :
    fault.name ∈ ["UnexpectedTokenError", "UnexpectedEndError", "MissingParenthesisError"] := by
  obtain ⟨found, hfound, hsyntactic⟩ := run_of_not_wellFormed hscan hnot maxVariables maxDepth
  obtain rfl := Except.error.inj (hfound.symm.trans h)
  exact Fault.isSyntactic_iff.mp hsyntactic

/-- The names of what can be wrong with a formula. -/
theorem name_of_wellFormed (hscan : (scan text).illegal = none)
    (hformed : WellFormed (scan text).tokens)
    (h : (run (some text) maxVariables maxDepth).outcome = .error fault) :
    fault.name ∈ ["NestingTooDeepError", "TooManyVariablesError", "OverflowError"] := by
  obtain ⟨f, d, hf⟩ := hformed
  rw [run_of_derives hscan hf] at h
  split at h
  · obtain rfl := Except.error.inj h
    exact List.mem_cons_self ..
  · split at h
    · obtain rfl := Except.error.inj h
      exact List.mem_cons_of_mem _ (TruthTable.name_excess ..)
    · exact absurd h (by simp)

/-- Whatever is wrong with a text, it is not a fault of the machinery. -/
theorem name_of_run_eq_error
    (h : (run (some text) maxVariables maxDepth).outcome = .error fault) :
    fault.name ∈ ["LexError"] ++
      ["UnexpectedTokenError", "UnexpectedEndError", "MissingParenthesisError"] ++
      ["NestingTooDeepError", "TooManyVariablesError", "OverflowError"] := by
  cases hscan : (scan text).illegal with
  | some c =>
      rw [run_of_illegal hscan] at h
      obtain rfl := Except.error.inj h
      exact List.mem_cons_self ..
  | none =>
      by_cases hformed : WellFormed (scan text).tokens
      · exact List.mem_append_right _ (name_of_wellFormed hscan hformed h)
      · apply List.mem_append_left
        exact List.mem_append_right _ (name_of_not_wellFormed hscan hformed h)

/-! ## The first failing stage -/

/-- It is a fault of the scan exactly if the text cannot be scanned to its end. -/
theorem exists_lexError_iff :
    (∃ fault, (run (some text) maxVariables maxDepth).outcome = .error fault ∧
      fault.name = "LexError") ↔ (scan text).illegal ≠ none := by
  constructor
  · rintro ⟨fault, hfault, hname⟩ hscan
    by_cases hformed : WellFormed (scan text).tokens
    · have hlate := name_of_wellFormed hscan hformed hfault
      rw [hname] at hlate
      exact absurd hlate (by decide)
    · have hsyntactic := name_of_not_wellFormed hscan hformed hfault
      rw [hname] at hsyntactic
      exact absurd hsyntactic (by decide)
  · intro hscan
    obtain ⟨c, hc⟩ := Option.ne_none_iff_exists'.mp hscan
    exact ⟨_, run_of_illegal hc .., rfl⟩

/-- It is a fault of the order of tokens exactly if the tokens make no formula. -/
theorem exists_syntactic_iff (hscan : (scan text).illegal = none) :
    (∃ fault, (run (some text) maxVariables maxDepth).outcome = .error fault ∧ fault.name ∈
      ["UnexpectedTokenError", "UnexpectedEndError", "MissingParenthesisError"]) ↔
      ¬ WellFormed (scan text).tokens := by
  constructor
  · rintro ⟨fault, hfault, hname⟩ hformed
    have hlate := name_of_wellFormed hscan hformed hfault
    -- no name is on both lists
    simp only [List.mem_cons, List.not_mem_nil, or_false] at hname hlate
    rcases hlate with hlate | hlate | hlate <;> simp [hlate] at hname
  · intro hnot
    obtain ⟨fault, hfault, hsyntactic⟩ := run_of_not_wellFormed hscan hnot maxVariables maxDepth
    exact ⟨fault, hfault, Fault.isSyntactic_iff.mp hsyntactic⟩

section Formulas

variable {f : Formula} {d : Nat} (hscan : (scan text).illegal = none)
  (hf : Derives .whole (scan text).tokens f d)

include hscan hf

/-- A formula is refused for its depth exactly if it is deeper than the limit. -/
theorem run_eq_nestedTooDeep_iff :
    (run (some text) maxVariables maxDepth).outcome = .error (.nestedTooDeep d maxDepth) ↔
      maxDepth < d := by
  rw [run_of_derives hscan hf]
  constructor
  · intro h
    by_contra hdepth
    rw [if_neg hdepth] at h
    split at h
    · have hname := TruthTable.name_excess f.leaves.toFinset.card maxVariables
      rw [Except.error.inj h] at hname
      exact absurd hname (by simp [Fault.name])
    · exact absurd h (by simp)
  · intro hdepth
    rw [if_pos hdepth]

/-- A formula that is not too deep is refused for its variables exactly if they are more than the
limit. -/
theorem run_eq_tooManyVariables_iff (hdepth : d ≤ maxDepth)
    (hpower : Decimal.hasPowerOfTwo maxVariables) :
    (run (some text) maxVariables maxDepth).outcome =
        .error (.tooManyVariables f.leaves.toFinset.card maxVariables) ↔
      maxVariables < f.leaves.toFinset.card := by
  rw [run_of_derives hscan hf, if_neg (Int.not_lt.mpr hdepth), TruthTable.excess, if_pos hpower]
  constructor
  · intro h
    by_contra hcount
    rw [if_neg hcount] at h
    exact absurd h (by simp)
  · intro hcount
    rw [if_pos hcount]

/-- A formula within both limits has its analysis. -/
theorem run_eq_complete (hdepth : d ≤ maxDepth) (hcount : f.leaves.toFinset.card ≤ maxVariables) :
    (run (some text) maxVariables maxDepth).outcome = .ok (complete (some text) f) := by
  rw [run_of_derives hscan hf, if_neg (Int.not_lt.mpr hdepth), if_neg (Int.not_lt.mpr hcount)]

end Formulas

/-- The outcome of an analysis is decided by the first stage that the text fails: the scan, the
grammar, the depth, the number of variables, in this order; a text that fails none has its analysis.
No fault of an evaluation, of a stack, of a constant form or of an unreadable text ever comes out.
The fault of too many variables tells how many rows the limit allows, which has to be a number. -/
theorem first_failing_stage_decides (text : String) (maxVariables maxDepth : Int) :
    let outcome := (run (some text) maxVariables maxDepth).outcome
    ((∃ fault, outcome = .error fault ∧ fault.name = "LexError") ↔ (scan text).illegal ≠ none) ∧
    ((scan text).illegal = none →
      ((∃ fault, outcome = .error fault ∧ fault.name ∈
          ["UnexpectedTokenError", "UnexpectedEndError", "MissingParenthesisError"]) ↔
        ¬ WellFormed (scan text).tokens) ∧
      ∀ f d, Derives .whole (scan text).tokens f d →
        (outcome = .error (.nestedTooDeep d maxDepth) ↔ maxDepth < d) ∧
        (d ≤ maxDepth →
          (Decimal.hasPowerOfTwo maxVariables →
            (outcome = .error (.tooManyVariables f.leaves.toFinset.card maxVariables) ↔
              maxVariables < f.leaves.toFinset.card)) ∧
          (f.leaves.toFinset.card ≤ maxVariables → outcome = .ok (complete (some text) f)))) ∧
    ∀ fault, outcome = .error fault →
      fault.name ∉ ["UnboundVariableError", "IndexError", "ValueError", "ParseError"] := by
  intro outcome
  refine ⟨exists_lexError_iff, ?_, ?_⟩
  · intro hscan
    refine ⟨exists_syntactic_iff hscan, ?_⟩
    intro f d hf
    refine ⟨run_eq_nestedTooDeep_iff hscan hf, ?_⟩
    intro hdepth
    exact ⟨run_eq_tooManyVariables_iff hscan hf hdepth, run_eq_complete hscan hf hdepth⟩
  · intro fault hfault hname
    have hknown := name_of_run_eq_error hfault
    simp only [List.mem_append, List.mem_cons, List.not_mem_nil, or_false] at hname hknown
    rcases hname with hname | hname | hname | hname <;> simp [hname] at hknown

/-- A text that is both no formula and not to be scanned is refused for the character, a formula
over both limits for its depth, and within the limit on the depth for its variables. -/
theorem earlier_stage_wins :
    (∃ fault, (run (some ")#") (0 : Int) (0 : Int)).outcome = .error fault ∧
      fault.name = "LexError") ∧
    (run (some "~(A | B)") (1 : Int) (1 : Int)).outcome = .error (.nestedTooDeep 2 1) ∧
    (run (some "~(A | B)") (1 : Int) (2 : Int)).outcome = .error (.tooManyVariables 2 1) ∧
    ∃ result, (run (some "~(A | B)") (2 : Int) (2 : Int)).outcome = .ok result := by
  have hscan : (scan "~(A | B)").illegal = none := rfl
  obtain ⟨d, hf⟩ : ∃ d, Derives .whole (scan "~(A | B)").tokens
      (.neg (.binary .or (.var "A") (.var "B"))) d :=
    Parser.run_start_result_iff.mp ⟨_, rfl, rfl⟩
  obtain rfl : d = 2 := Option.some.inj ((nestingDepth?_of_derives hf).symm.trans rfl)
  have hcount : (Formula.neg (.binary .or (.var "A") (.var "B"))).leaves.toFinset.card = 2 := rfl
  refine ⟨?_, ?_, ?_, ?_⟩
  · exact (first_failing_stage_decides ")#" 0 0).1.mpr (by decide)
  · obtain ⟨hdepth, -⟩ := ((first_failing_stage_decides _ 1 1).2.1 hscan).2 _ _ hf
    exact hdepth.mpr (by decide)
  · obtain ⟨-, hvars⟩ := ((first_failing_stage_decides _ 1 2).2.1 hscan).2 _ _ hf
    obtain ⟨htoo, -⟩ := hvars (by decide)
    rw [hcount] at htoo
    exact (htoo (Decimal.hasPowerOfTwo_of_pos (by decide))).mpr (by decide)
  · obtain ⟨-, hvars⟩ := ((first_failing_stage_decides _ 2 2).2.1 hscan).2 _ _ hf
    obtain ⟨-, hresult⟩ := hvars (by decide)
    rw [hcount] at hresult
    exact ⟨_, hresult (by decide)⟩

end Analysis

end Sentential
