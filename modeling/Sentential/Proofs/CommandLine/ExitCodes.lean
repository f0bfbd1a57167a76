/-
# Sentential.Proofs.CommandLine.ExitCodes -- what a run of the program tells the outside

The exit code says at which stage a run failed, and the run says all of a report or nothing: if it
fails it says remarks and, behind them, the one error that names the failure. This is stated of the
entries of a run, and the output is the text of those that are seen, so that a line of a report
cannot pass for a record with the same words. A check and an analysis of the same text go the same
way until the text is read, and refuse it alike; what an analysis can fail for beyond this is the
size of its table.

Not every formula with too many variables is refused for this. A limit may lie so far below zero
that the number of rows it allows cannot be computed; the refusal would have to tell this number,
and the run breaks off instead. And a number of rows may have more digits than are written, in a
refusal or at the beginning of an enumeration; the run then fails as it does over a file.
-/
import Sentential.Proofs.CommandLine.Outcome
import Sentential.Proofs.CommandLine.Verbosity

namespace Sentential.CommandLine

/-! ## Reports -/

/-- The program returns, and with that exit code. -/
def Report.Returns (report : Report) (code : Nat) : Prop :=
  report.brokenBy = none ∧ report.exitCode = code

/-- A run says remarks, then these entries and nothing behind them, and it writes the remarks that
are seen at its threshold and all of the entries. -/
def Options.EndsWith (options : Options) (found : Path → FileState) (longest : Option Nat)
    (entries : List Entry) : Prop :=
  ∃ remarks, (∀ entry ∈ remarks, entry.IsRemark) ∧
    (options.perform found longest).1 = remarks ++ entries ∧
    (options.execute found longest).output =
      Entry.text (Entry.shown options.threshold remarks) ++ Entry.text entries

section Runs

variable {options : Options} {found : Path → FileState} {longest : Option Nat}

/-! ## Exit codes -/

/-- The exit code is that of the obstacle, or zero if there is none. -/
theorem Options.returns_iff {code : Nat} :
    (options.execute found longest).Returns code ↔
      code = 0 ∧ options.EndsAt found longest none ∨
        ∃ failure : Failure, code = failure.exitCode ∧
          options.EndsAt found longest (some (.failed failure)) := by
  simp only [endsAt_iff, execute_eq, Report.Returns]
  rcases (options.perform found longest).2 with _ | (failure | fault) <;>
    simp [Report.ofRun, eq_comm]

theorem Options.brokenBy_iff {fault : Fault} :
    (options.execute found longest).brokenBy = some fault ↔
      options.EndsAt found longest (some (.brokenOff fault)) := by
  rw [endsAt_iff, execute_eq]
  rcases (options.perform found longest).2 with _ | (failure | fault) <;> simp [Report.ofRun]

/-- A run that fails returns the exit code of its failure. -/
theorem Options.EndsAt.returns {failure : Failure}
    (h : options.EndsAt found longest (some (.failed failure))) :
    (options.execute found longest).Returns failure.exitCode :=
  returns_iff.mpr (.inr ⟨failure, rfl, h⟩)

/-- A run that returns another code than zero has failed. -/
theorem Options.exists_failure {code : Nat} (h : (options.execute found longest).Returns code)
    (hcode : code ≠ 0) :
    ∃ failure, options.EndsAt found longest (some (.failed failure)) ∧
      failure.exitCode = code := by
  rcases returns_iff.mp h with ⟨hzero, -⟩ | ⟨failure, hfailure, hends⟩
  · exact absurd hzero hcode
  · exact ⟨failure, hends, hfailure.symm⟩

/-- The exit code 4 is for runs without a formula, and for tables whose size cannot be told. -/
theorem Options.returns_four_iff :
    (options.execute found longest).Returns 4 ↔
      options.file = none ∧ options.formula = none ∨
        (∃ file, options.file = some (.named file) ∧
          ∀ text, ¬ (found (.ofText file)).Holds text) ∨
        options.validateOnly = false ∧ ∃ f, options.Reads found f ∧ ¬ options.Tells longest f := by
  constructor
  · intro h
    obtain ⟨failure, hends, hcode⟩ := exists_failure h (by decide)
    cases hends with
    | nothing hfile hformula => exact .inl ⟨hfile, hformula⟩
    | noFormula hfile hfault =>
        refine .inr (.inl ⟨_, hfile, fun text hholds => ?_⟩)
        rw [formulaIn_eq_ok_iff.mpr hholds] at hfault
        exact absurd hfault (by simp)
    | unscanned => cases hcode
    | unparsed => cases hcode
    | untold hreads hfull _ huntold => exact .inr (.inr ⟨hfull, _, hreads, huntold⟩)
    | oversized => cases hcode
  · rintro (⟨hfile, hformula⟩ | ⟨file, hfile, hnone⟩ | ⟨hfull, f, hreads, huntold⟩)
    · exact EndsAt.returns (.nothing hfile hformula)
    · cases hfault : formulaIn (.ofText file) (found (.ofText file)) with
      | error fault => exact EndsAt.returns (.noFormula hfile hfault)
      | ok text => exact absurd (formulaIn_eq_ok_iff.mp hfault) (hnone text)
    · obtain ⟨digits, hdigits⟩ := exists_longest huntold
      exact EndsAt.returns (.untold hreads hfull hdigits huntold)

/-- The exit code 1 is for texts that are not scanned to the end. -/
theorem Options.returns_one_iff :
    (options.execute found longest).Returns 1 ↔
      ∃ text, options.Gives found text ∧ (scan text).illegal ≠ none := by
  constructor
  · intro h
    obtain ⟨failure, hends, hcode⟩ := exists_failure h (by decide)
    cases hends with
    | nothing => cases hcode
    | noFormula => cases hcode
    | unscanned hgives hscan => exact ⟨_, hgives, hscan⟩
    | unparsed => cases hcode
    | untold => cases hcode
    | oversized => cases hcode
  · rintro ⟨text, hgives, hscan⟩
    obtain ⟨c, hc⟩ := Option.ne_none_iff_exists'.mp hscan
    exact EndsAt.returns (.unscanned hgives hscan (parse_of_illegal hc _))

/-- The exit code 2 is for texts that are scanned to the end and not read. -/
theorem Options.returns_two_iff :
    (options.execute found longest).Returns 2 ↔
      ∃ text, options.Gives found text ∧ (scan text).illegal = none ∧
        ∃ fault, (parse (some text) options.maxDepth).outcome = .error fault := by
  constructor
  · intro h
    obtain ⟨failure, hends, hcode⟩ := exists_failure h (by decide)
    cases hends with
    | nothing => cases hcode
    | noFormula => cases hcode
    | unscanned => cases hcode
    | unparsed hgives hscan hparse => exact ⟨_, hgives, hscan, _, hparse⟩
    | untold => cases hcode
    | oversized => cases hcode
  · rintro ⟨text, hgives, hscan, fault, hparse⟩
    exact EndsAt.returns (.unparsed hgives hscan hparse)

/-- The exit code 3 is for formulas with too many variables. -/
theorem Options.returns_three_iff :
    (options.execute found longest).Returns 3 ↔
      options.validateOnly = false ∧ ∃ f limit, options.Reads found f ∧
        options.maxVariables = .whole limit ∧ limit < f.leaves.toFinset.card ∧
        options.Tells longest f ∧ Decimal.hasPowerOfTwo limit := by
  constructor
  · intro h
    obtain ⟨failure, hends, hcode⟩ := exists_failure h (by decide)
    cases hends with
    | nothing => cases hcode
    | noFormula => cases hcode
    | unscanned => cases hcode
    | unparsed => cases hcode
    | untold => cases hcode
    | oversized hreads hfull htells hlimit hcount hpower =>
        exact ⟨hfull, _, _, hreads, hlimit, hcount, htells, hpower⟩
  · rintro ⟨hfull, f, limit, hreads, hlimit, hcount, htells, hpower⟩
    exact EndsAt.returns (.oversized hreads hfull htells hlimit hcount hpower)

/-- No failure has the exit code of success. -/
theorem Failure.exitCode_ne_zero (failure : Failure) : failure.exitCode ≠ 0 := by
  rcases failure with _ | _ | ⟨kind, -⟩
  · exact Nat.succ_ne_zero _
  · exact Nat.succ_ne_zero _
  · cases kind <;> exact Nat.succ_ne_zero _

/-- The exit code 0 is for formulas that were only checked or that are within the limit. -/
theorem Options.returns_zero_iff :
    (options.execute found longest).Returns 0 ↔
      ∃ f, options.Reads found f ∧ (options.validateOnly = true ∨
        ∃ limit : Int, options.maxVariables = .whole limit ∧
          f.leaves.toFinset.card ≤ limit ∧ options.Tells longest f) := by
  rw [returns_iff]
  constructor
  · rintro (⟨-, hends⟩ | ⟨failure, hcode, -⟩)
    · cases hends with
      | checked hreads hcheck => exact ⟨_, hreads, .inl hcheck⟩
      | analysed hreads hfull htells hlimit hcount =>
          exact ⟨_, hreads, .inr ⟨_, hlimit, hcount, htells⟩⟩
    · exact absurd hcode.symm failure.exitCode_ne_zero
  · rintro ⟨f, hreads, hcheck | ⟨limit, hlimit, hcount, htells⟩⟩
    · exact .inl ⟨rfl, .checked hreads hcheck⟩
    · cases hcheck : options.validateOnly with
      | true => exact .inl ⟨rfl, .checked hreads hcheck⟩
      | false => exact .inl ⟨rfl, .analysed hreads hcheck htells hlimit hcount⟩

/-- A run breaks off over a value that was left blank where it is needed, over a limit that allows
no number of rows, and over nothing else. -/
theorem Options.brokenBy_eq_some_iff {fault : Fault} :
    (options.execute found longest).brokenBy = some fault ↔
      fault = .blankFileName ∧ options.file = some .blank ∨
        options.validateOnly = false ∧ ∃ f, options.Reads found f ∧
          (fault = .blankLimit ∧ options.maxVariables = .blank ∨
            fault = .exponentOutOfRange ∧ ∃ limit : Int, options.maxVariables = .whole limit ∧
              limit < f.leaves.toFinset.card ∧ options.Tells longest f ∧
              ¬ Decimal.hasPowerOfTwo limit) := by
  rw [brokenBy_iff]
  constructor
  · intro hends
    cases hends with
    | blankName hfile => exact .inl ⟨rfl, hfile⟩
    | unworded hreads hfull htells hlimit hcount hpower =>
        exact .inr ⟨hfull, _, hreads, .inr ⟨rfl, _, hlimit, hcount, htells, hpower⟩⟩
    | blankLimit hreads hfull hlimit => exact .inr ⟨hfull, _, hreads, .inl ⟨rfl, hlimit⟩⟩
  · rintro (⟨rfl, hfile⟩ | ⟨hfull, f, hreads, ⟨rfl, hlimit⟩ |
      ⟨rfl, limit, hlimit, hcount, htells, hpower⟩⟩)
    · exact .blankName hfile
    · exact .blankLimit hreads hfull hlimit
    · exact .unworded hreads hfull htells hlimit hcount hpower

/-! ## What is said and written -/

/-- Entries that are seen at every threshold are written behind the remarks that are seen. -/
theorem Options.endsWith_of_perform {remarks entries : List Entry}
    (hremarks : ∀ entry ∈ remarks, entry.IsRemark)
    (hseen : ∀ threshold, Entry.shown threshold entries = entries)
    (h : (options.perform found longest).1 = remarks ++ entries) :
    options.EndsWith found longest entries := by
  refine ⟨remarks, hremarks, h, ?_⟩
  rw [execute_eq, Report.output_ofRun, h, Entry.shown_append, hseen, Entry.text_append]

/-- A run that fails says remarks and the error record that names its failure. -/
theorem Options.EndsAt.endsWith {failure : Failure}
    (h : options.EndsAt found longest (some (.failed failure))) :
    options.EndsWith found longest [.record .error failure.message] := by
  obtain ⟨remarks, hremarks, hperform⟩ := perform_of_obstacle h.obstacle_eq
  refine endsWith_of_perform hremarks ?_ hperform
  intro threshold
  cases threshold <;> rfl

/-- A check that succeeds says remarks and its result. -/
theorem Options.endsWith_result (hcheck : options.validateOnly = true)
    (h : (options.execute found longest).Returns 0) :
    options.EndsWith found longest [.printed "Formula is well-formed"] := by
  obtain ⟨f, hreads, -⟩ := returns_zero_iff.mp h
  obtain ⟨remarks, hremarks, hperform⟩ := perform_of_validateOnly hreads hcheck
  exact endsWith_of_perform hremarks (fun _ => rfl) (congrArg Prod.fst hperform)

/-- An analysis that succeeds says remarks and its whole report. -/
theorem Options.endsWith_report (hfull : options.validateOnly = false)
    (h : (options.execute found longest).Returns 0) :
    ∃ text f header, options.Gives found text ∧
      (parse (some text) options.maxDepth).outcome = .ok f ∧
      (respell options.symbols (some text)).outcome = .ok header ∧
      options.EndsWith found longest
        (reportEntries options.symbols header (.complete (some text) f)) := by
  obtain ⟨f, ⟨text, hgives, hparse⟩, hcheck | ⟨limit, hlimit, hcount, htells⟩⟩ :=
    returns_zero_iff.mp h
  · rw [hfull] at hcheck
    exact absurd hcheck (by decide)
  · have hsize := htells.sizeCheck_eq_ok hlimit hcount
    obtain ⟨remarks, header, hremarks, hheader, hperform⟩ :=
      perform_of_check hgives hparse hfull hsize
    refine ⟨text, f, header, hgives, hparse, hheader, ?_⟩
    exact endsWith_of_perform hremarks (fun _ => rfl) (congrArg Prod.fst hperform)

end Runs

/-! ## Checks and analyses -/

/-- The options with nothing but a check asked for. -/
def Options.forCheck (options : Options) : Options := { options with validateOnly := true }

/-- The options with an analysis asked for. -/
def Options.forAnalysis (options : Options) : Options := { options with validateOnly := false }

section Checks

variable {options : Options} {found : Path → FileState} {longest : Option Nat}

/-- A check succeeds where an analysis succeeds or is stopped by the check of the size. -/
theorem Options.returns_zero_forCheck_iff :
    (options.forCheck.execute found longest).Returns 0 ↔
      (options.forAnalysis.execute found longest).Returns 0 ∨
        (options.forAnalysis.execute found longest).Returns 3 ∨
        (∃ digits, options.forAnalysis.EndsAt found longest
          (some (.failed (.formula .value (.numberTooLong digits))))) ∨
        (options.forAnalysis.execute found longest).brokenBy = some .blankLimit ∨
        (options.forAnalysis.execute found longest).brokenBy = some .exponentOutOfRange := by
  have hcheck : (options.forCheck.execute found longest).Returns 0 ↔
      ∃ f, options.forAnalysis.Reads found f := by
    rw [returns_zero_iff]
    exact ⟨fun ⟨f, hreads, _⟩ => ⟨f, hreads⟩, fun ⟨f, hreads⟩ => ⟨f, hreads, .inl rfl⟩⟩
  rw [hcheck]
  constructor
  · -- of what is read for a check only the size is left to check in an analysis
    rintro ⟨f, hreads⟩
    by_cases htells : options.forAnalysis.Tells longest f
    · cases hlimit : options.forAnalysis.maxVariables with
      | blank =>
          exact .inr (.inr (.inr (.inl (brokenBy_iff.mpr (.blankLimit hreads rfl hlimit)))))
      | whole limit =>
          by_cases hcount : limit < f.leaves.toFinset.card
          · by_cases hpower : Decimal.hasPowerOfTwo limit
            · exact .inr (.inl (returns_three_iff.mpr
                ⟨rfl, f, limit, hreads, hlimit, hcount, htells, hpower⟩))
            · exact .inr (.inr (.inr (.inr (brokenBy_iff.mpr
                (.unworded hreads rfl htells hlimit hcount hpower)))))
          · exact .inl (returns_zero_iff.mpr
              ⟨f, hreads, .inr ⟨limit, hlimit, Int.not_lt.mp hcount, htells⟩⟩)
    · obtain ⟨digits, hdigits⟩ := exists_longest htells
      exact .inr (.inr (.inl ⟨digits, .untold hreads rfl hdigits htells⟩))
  · rintro (h | h | ⟨digits, h⟩ | h | h)
    · obtain ⟨f, hreads, -⟩ := returns_zero_iff.mp h
      exact ⟨f, hreads⟩
    · obtain ⟨-, f, limit, hreads, -⟩ := returns_three_iff.mp h
      exact ⟨f, hreads⟩
    · cases h with
      | untold hreads => exact ⟨_, hreads⟩
    · cases brokenBy_iff.mp h with
      | blankLimit hreads => exact ⟨_, hreads⟩
    · cases brokenBy_iff.mp h with
      | unworded hreads => exact ⟨_, hreads⟩

/-- A failure of a check is a failure of the analysis. -/
theorem Options.EndsAt.forAnalysis {failure : Failure}
    (h : options.forCheck.EndsAt found longest (some (.failed failure))) :
    options.forAnalysis.EndsAt found longest (some (.failed failure)) := by
  cases h with
  | nothing hfile hformula => exact .nothing hfile hformula
  | noFormula hfile hfault => exact .noFormula hfile hfault
  | unscanned hgives hscan hparse => exact .unscanned hgives hscan hparse
  | unparsed hgives hscan hparse => exact .unparsed hgives hscan hparse
  | untold _ hfull => exact absurd hfull (by simp [forCheck])
  | oversized _ hfull => exact absurd hfull (by simp [forCheck])

end Checks

/-- The exit code tells what became of the options, and what is said and written goes with it.

With a formula to read, the code is 1 if its text is not scanned, 2 if it is scanned and not
parsed, 3 if it is to be analysed and has too many variables, and 0 if it is only checked or within
the limit; without one it is 4, and also if the size of the table cannot be told in as many digits
as are written. A run without a code breaks off, over a value that was left blank where it is needed
or over a limit that allows no number of rows.

A run that fails says remarks and one error record that names the failure, an analysis that succeeds
says remarks and its whole report, and a check that succeeds says remarks and its result; the output
is these, without the remarks below the threshold. A check succeeds where an analysis does or is
stopped by the size of the table, and fails with the error of the analysis. -/
theorem exit_code_tells_what_became_of_options (options : Options) (found : Path → FileState)
    (longest : Option Nat) :
    let report := options.execute found longest
    let check := options.forCheck.execute found longest
    let analysis := options.forAnalysis.execute found longest
    (report.Returns 4 ↔ options.file = none ∧ options.formula = none ∨
      (∃ file, options.file = some (.named file) ∧
        ∀ text, ¬ (found (.ofText file)).Holds text) ∨
      options.validateOnly = false ∧ ∃ f, options.Reads found f ∧ ¬ options.Tells longest f) ∧
    (report.Returns 1 ↔ ∃ text, options.Gives found text ∧ (scan text).illegal ≠ none) ∧
    (report.Returns 2 ↔ ∃ text, options.Gives found text ∧ (scan text).illegal = none ∧
      ∃ fault, (parse (some text) options.maxDepth).outcome = .error fault) ∧
    (report.Returns 3 ↔ options.validateOnly = false ∧ ∃ f limit, options.Reads found f ∧
      options.maxVariables = .whole limit ∧ limit < f.leaves.toFinset.card ∧
      options.Tells longest f ∧ Decimal.hasPowerOfTwo limit) ∧
    (report.Returns 0 ↔ ∃ f, options.Reads found f ∧ (options.validateOnly = true ∨
      ∃ limit : Int, options.maxVariables = .whole limit ∧ f.leaves.toFinset.card ≤ limit ∧
        options.Tells longest f)) ∧
    (∀ fault, report.brokenBy = some fault ↔
      fault = .blankFileName ∧ options.file = some .blank ∨
      options.validateOnly = false ∧ ∃ f, options.Reads found f ∧
        (fault = .blankLimit ∧ options.maxVariables = .blank ∨
          fault = .exponentOutOfRange ∧ ∃ limit : Int, options.maxVariables = .whole limit ∧
            limit < f.leaves.toFinset.card ∧ options.Tells longest f ∧
            ¬ Decimal.hasPowerOfTwo limit)) ∧
    (∀ code, report.Returns code → code ≠ 0 →
      ∃ failure, options.EndsAt found longest (some (.failed failure)) ∧
        failure.exitCode = code ∧
        options.EndsWith found longest [.record .error failure.message]) ∧
    (report.Returns 0 → options.validateOnly = false →
      ∃ text f header, options.Gives found text ∧
        (parse (some text) options.maxDepth).outcome = .ok f ∧
        (respell options.symbols (some text)).outcome = .ok header ∧
        options.EndsWith found longest
          (reportEntries options.symbols header (.complete (some text) f))) ∧
    (report.Returns 0 → options.validateOnly = true →
      options.EndsWith found longest [.printed "Formula is well-formed"]) ∧
    (check.Returns 0 ↔ analysis.Returns 0 ∨ analysis.Returns 3 ∨
      (∃ digits, options.forAnalysis.EndsAt found longest
        (some (.failed (.formula .value (.numberTooLong digits))))) ∨
      analysis.brokenBy = some .blankLimit ∨ analysis.brokenBy = some .exponentOutOfRange) ∧
    (∀ code, check.Returns code → code ≠ 0 → analysis.Returns code ∧
      ∃ failure : Failure, failure.exitCode = code ∧
        options.forCheck.EndsWith found longest [.record .error failure.message] ∧
        options.forAnalysis.EndsWith found longest [.record .error failure.message]) := by
  intro report check analysis
  refine ⟨Options.returns_four_iff, Options.returns_one_iff, Options.returns_two_iff,
    Options.returns_three_iff, Options.returns_zero_iff, fun fault => Options.brokenBy_eq_some_iff,
    ?_, ?_, ?_, Options.returns_zero_forCheck_iff, ?_⟩
  · intro code hreturns hcode
    obtain ⟨failure, hends, hfailure⟩ := Options.exists_failure hreturns hcode
    exact ⟨failure, hends, hfailure, hends.endsWith⟩
  · intro hreturns hfull
    exact Options.endsWith_report hfull hreturns
  · intro hreturns hcheck
    exact Options.endsWith_result hcheck hreturns
  · intro code hreturns hcode
    obtain ⟨failure, hends, rfl⟩ := Options.exists_failure hreturns hcode
    exact ⟨hends.forAnalysis.returns, failure, rfl, hends.endsWith, hends.forAnalysis.endsWith⟩

/-- A formula in a file, with one variable more than allowed, is refused for it, although the
command line has another formula: the refusal is all that is said above the details. A check of the
file succeeds. -/
theorem formula_in_file_is_over_limit :
    let options : Options := { Options.default with
      formula := some "A &", file := some (.named "f"), maxVariables := (1 : Int) }
    let found : Path → FileState := fun _ => .octets [0x20, 0x41, 0x7C, 0x42, 0x0D, 0x0A]
    (options.execute found).Returns 3 ∧
    options.EndsWith found longestNumber [.record .error ("Truth table too large: " ++
      "Formula has 2 variables; truth tables are limited to 1 variables (2 rows)")] ∧
    (options.forCheck.execute found).Returns 0 := by
  intro options found
  have hholds : (found (.ofText "f")).Holds "A|B" :=
    ⟨_, " A|B\r\n".toList, rfl, rfl, ⟨'A', by decide, by decide⟩, rfl⟩
  have hreads : options.Reads found (.binary .or (.var "A") (.var "B")) :=
    ⟨"A|B", .inl ⟨"f", rfl, hholds⟩, rfl⟩
  have hcount : (1 : Int) < (Formula.binary .or (.var "A") (.var "B")).leaves.toFinset.card := by
    decide
  have htells : options.Tells longestNumber (.binary .or (.var "A") (.var "B")) := by
    show ∀ n ∈ [2, 1, 2], Numeral.isWritten longestNumber n
    decide +kernel
  have hpower : Decimal.hasPowerOfTwo 1 := Decimal.hasPowerOfTwo_of_pos (by decide)
  obtain ⟨-, -, -, hthree, -, -, hfailure, -, -, hcheck, -⟩ :=
    exit_code_tells_what_became_of_options options found longestNumber
  have hreturns := hthree.mpr ⟨rfl, _, 1, hreads, rfl, hcount, htells, hpower⟩
  obtain ⟨failure, hends, -, hwrites⟩ := hfailure 3 hreturns (by decide)
  have hover := (Options.EndsAt.oversized hreads rfl htells rfl hcount hpower).obstacle_eq
  obtain rfl := Obstacle.failed.inj (Option.some.inj (hends.obstacle_eq.symm.trans hover))
  exact ⟨hreturns, hwrites, hcheck.mpr (.inr (.inl hreturns))⟩

/-- A formula can have more variables than allowed and still not be refused for it. -/
theorem limit_without_exit_code :
    ¬ ∀ (options : Options) (found : Path → FileState),
      (options.execute found).Returns 3 ↔
        options.validateOnly = false ∧ ∃ f limit, options.Reads found f ∧
          options.maxVariables = .whole limit ∧ limit < f.leaves.toFinset.card := by
  intro h
  let limit : Int := -Decimal.leastUnrounded
  let options : Options := { Options.default with formula := some "A", maxVariables := limit }
  have hcount : limit < (Formula.var "A").leaves.toFinset.card := by
    show -(Decimal.leastUnrounded : Int) < 1
    omega
  have hreads : options.Reads (fun _ => .missing) (.var "A") := ⟨"A", .inr ⟨rfl, rfl⟩, rfl⟩
  have hreturns := (h options fun _ => .missing).mpr ⟨rfl, _, limit, hreads, rfl, hcount⟩
  obtain ⟨-, -, limit', -, hlimit, -, -, hpower⟩ := Options.returns_three_iff.mp hreturns
  obtain rfl := Limit.whole.inj hlimit
  exact Decimal.not_hasPowerOfTwo_leastUnrounded hpower

end Sentential.CommandLine
