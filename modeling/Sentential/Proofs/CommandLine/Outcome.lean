/-
# Sentential.Proofs.CommandLine.Outcome -- what a run of the program comes to

A run ends at an obstacle or at none, and the options, the file and the text of the formula say at
which: `Options.EndsAt` lists the ways, there is one for every run, and no run ends at two. What was
said up to the end are remarks, and nothing else if there is an obstacle. An analysis prints the
first line of its report when everything that can fail is done, so all of the report is printed or
nothing.

Of the faults that have no place among the ways, none is ever met: an analysis gives every variable
a value, asks no constant for its tree, and takes nothing from an empty stack.
-/
import Sentential.Proofs.Analysis.Outcome
import Sentential.Proofs.Analysis.Remarks
import Sentential.Proofs.CommandLine.Given
import Sentential.Proofs.Parser.Respelling

namespace Sentential

/-! ## Kinds of faults -/

open CommandLine (FaultKind)

theorem Fault.IsSyntactic.kind {fault : Fault} (h : fault.IsSyntactic) :
    FaultKind.of? fault = some .parsing := by
  cases fault <;> first | rfl | exact absurd h id

namespace Reader

variable {reader : Reader} {fault : Fault}

theorem kind_of_formula (h : reader.formula = .error fault) :
    FaultKind.of? fault = some .parsing := by
  have hnot : ¬ WellFormed reader.scanned := by
    rintro ⟨f, d, hf⟩
    rw [formula_eq_ok_iff.mpr ⟨d, hf⟩] at h
    exact absurd h (by simp)
  obtain ⟨found, hfound, hsyntactic, -⟩ := formula_of_not_wellFormed reader hnot
  obtain rfl := Except.error.inj (h.symm.trans hfound)
  exact hsyntactic.kind

/-- A depth that is a fault of the formula is above the limit. -/
theorem kind_of_depth (h : reader.depth = .error fault) (hformula : fault.isFormulaFault) :
    FaultKind.of? fault = some .parsing := by
  unfold depth at h
  split at h
  · obtain rfl := Except.error.inj h
    exact absurd hformula (by decide)
  · next d _ =>
      cases hcheck : reader.maxDepth.check d (.nestedTooDeep d) with
      | ok _ =>
          rw [hcheck] at h
          exact absurd h (by simp [Except.map])
      | error found =>
          rw [hcheck] at h
          obtain rfl := Except.error.inj h
          rcases Limit.check_eq_error hcheck with rfl | ⟨limit, rfl⟩
          · exact absurd hformula (by decide)
          · rfl

/-- Whatever is wrong with the formula in tokens, it is neither a character nor the number of
variables. -/
theorem kind_of_interpret (h : reader.interpret.outcome = .error fault)
    (hformula : fault.isFormulaFault) : FaultKind.of? fault = some .parsing := by
  rw [interpret_outcome] at h
  cases hfound : reader.formula with
  | error found =>
      rw [hfound] at h
      obtain rfl := Except.error.inj h
      exact kind_of_formula hfound
  | ok f =>
      cases hdepth : reader.depth with
      | error found =>
          rw [hfound, hdepth] at h
          obtain rfl := Except.error.inj h
          exact kind_of_depth hdepth hformula
      | ok d =>
          rw [hfound, hdepth] at h
          exact absurd h (by simp [Except.bind, Except.map])

end Reader

/-- The program is prepared for every fault of a text that is not read; which kind it is of tells
whether the text is scanned. -/
theorem kind_of_parse {text : String} {limit : Limit} {fault : Fault}
    (h : (parse (some text) limit).outcome = .error fault) :
    FaultKind.of? fault = some (if (scan text).illegal = none then .parsing else .scanning) := by
  cases hscan : (scan text).illegal with
  | some c =>
      rw [parse_of_illegal hscan] at h
      obtain rfl := Except.error.inj h
      rfl
  | none =>
      rw [parse_of_scan hscan] at h
      obtain ⟨found, hfound, ⟨hformula, rfl⟩ | rfl⟩ := of_reported_eq_error h
      · exact Reader.kind_of_interpret hfound hformula
      · rfl

namespace CommandLine

/-! ## Treating a text -/

/-- The report of an analysis, entry by entry. -/
def reportEntries (symbols : Symbols) (header : String) (analysis : Analysis) : List Entry :=
  [.printed (analysis.table.render (.titled (some header))), .printed "",
    .printed ("DNF: " ++ analysis.dnf.render symbols),
    .printed ("CNF: " ++ analysis.cnf.render symbols)]

/-- Once the header is there, nothing stands in the way of the report. -/
theorem reportAnalysis_of_header {symbols : Symbols} {analysis : Analysis} {header : String}
    (h : (respell symbols analysis.source).outcome = .ok header) :
    reportAnalysis symbols analysis =
      ⟨(respell symbols analysis.source).entries ++ reportEntries symbols header analysis,
        .ok ()⟩ := by
  rw [reportAnalysis, Script.bind_ok h]
  rfl

section Texts

variable {options : Options} {text : String} {longest : Option Nat} {fault : Fault} {f : Formula}

/-- A check that stops at the formula has said nothing but remarks. -/
theorem Options.treat_of_check_error (hcheck : options.validateOnly = true)
    (h : (parse (some text) options.maxDepth).outcome = .error fault) :
    (options.treat text longest).outcome = .error fault ∧
      (options.treat text longest).OnlyRemarks := by
  rw [treat, Script.bind_ok rfl, if_pos hcheck, Script.bind_error h]
  refine ⟨rfl, List.forall_mem_append.mpr ⟨?_, onlyRemarks_parse _ _⟩⟩
  exact Script.onlyRemarks_record (by decide) _

/-- An analysis that fails has said nothing but remarks. -/
theorem Options.treat_of_run_error (hfull : options.validateOnly = false)
    (h : (Analysis.run (some text) options.maxVariables options.maxDepth longest).outcome =
      .error fault) :
    (options.treat text longest).outcome = .error fault ∧
      (options.treat text longest).OnlyRemarks := by
  rw [treat, Script.bind_ok rfl, if_neg (by simp [hfull]), Script.bind_error h]
  refine ⟨rfl, List.forall_mem_append.mpr ⟨?_, Analysis.onlyRemarks_run _ _ _ _⟩⟩
  exact Script.onlyRemarks_record (by decide) _

/-- A text that is not read ends a check and an analysis in the same way. -/
theorem Options.treat_of_unread (h : (parse (some text) options.maxDepth).outcome = .error fault) :
    (options.treat text longest).outcome = .error fault := by
  cases hcheck : options.validateOnly with
  | true => exact (treat_of_check_error hcheck h).1
  | false =>
      refine (treat_of_run_error hcheck ?_).1
      rw [Analysis.run_within_outcome, h]
      rfl

/-- A check that finds a formula says so behind its remarks. -/
theorem Options.treat_of_checked (options : Options) (longest : Option Nat)
    (hcheck : options.validateOnly = true)
    (h : (parse (some text) options.maxDepth).outcome = .ok f) :
    ∃ remarks, (∀ entry ∈ remarks, entry.IsRemark) ∧
      options.treat text longest = ⟨remarks ++ [.printed "Formula is well-formed"], .ok ()⟩ := by
  have hloaded : (Script.record .info ("📋 Formula loaded: " ++ text)).OnlyRemarks :=
    Script.onlyRemarks_record (by decide) _
  have hvalid : (Script.record .info (Analysis.validRemark (some text))).OnlyRemarks :=
    Script.onlyRemarks_record (by decide) _
  have hparse := onlyRemarks_parse (some text) options.maxDepth
  refine ⟨_, List.forall_mem_append.mpr ⟨hloaded, List.forall_mem_append.mpr ⟨hparse, hvalid⟩⟩, ?_⟩
  rw [treat, Script.bind_ok rfl, if_pos hcheck, Script.bind_ok h, List.append_assoc,
    List.append_assoc]
  rfl

/-- An analysis that succeeds has its whole report behind its remarks. -/
theorem Options.treat_of_run_ok {analysis : Analysis} (hfull : options.validateOnly = false)
    (h : (Analysis.run (some text) options.maxVariables options.maxDepth longest).outcome =
      .ok analysis) :
    ∃ remarks header, (∀ entry ∈ remarks, entry.IsRemark) ∧
      (respell options.symbols (some text)).outcome = .ok header ∧
      options.treat text longest =
        ⟨remarks ++ reportEntries options.symbols header analysis, .ok ()⟩ := by
  obtain ⟨f, hparse, -, rfl⟩ := Analysis.run_within_eq_ok_iff.mp h
  obtain ⟨text', d, htext, hscan, -⟩ := derives_of_parse hparse
  obtain rfl := Option.some.inj htext
  have hheader := respell_outcome hscan options.symbols
  have hloaded : (Script.record .info ("📋 Formula loaded: " ++ text)).OnlyRemarks :=
    Script.onlyRemarks_record (by decide) _
  have hrun := Analysis.onlyRemarks_run (some text) options.maxVariables options.maxDepth longest
  have hrespell := onlyRemarks_respell options.symbols (some text)
  refine ⟨_, _, List.forall_mem_append.mpr ⟨hloaded, List.forall_mem_append.mpr ⟨hrun, hrespell⟩⟩,
    hheader, ?_⟩
  rw [treat, Script.bind_ok rfl, if_neg (by simp [hfull]), Script.bind_ok h,
    reportAnalysis_of_header hheader, List.append_assoc, List.append_assoc]
  rfl

/-- A text that ends in a fault ends in it after nothing but remarks. -/
theorem Options.onlyRemarks_treat (h : (options.treat text longest).outcome = .error fault) :
    (options.treat text longest).OnlyRemarks := by
  cases hcheck : options.validateOnly with
  | true =>
      cases hparse : (parse (some text) options.maxDepth).outcome with
      | error found => exact (treat_of_check_error hcheck hparse).2
      | ok f =>
          obtain ⟨remarks, -, htreat⟩ := options.treat_of_checked longest hcheck hparse
          rw [htreat] at h
          exact absurd h (by simp)
  | false =>
      cases hrun : (Analysis.run (some text) options.maxVariables options.maxDepth
          longest).outcome with
      | error found => exact (treat_of_run_error hcheck hrun).2
      | ok analysis =>
          obtain ⟨remarks, header, -, -, htreat⟩ := treat_of_run_ok hcheck hrun
          rw [htreat] at h
          exact absurd h (by simp)

end Texts

/-! ## The ways a run ends -/

section Ends

variable {options : Options} {found : Path → FileState} {longest : Option Nat}

/-- The text that the options give is read as the formula `f`. -/
def Options.Reads (options : Options) (found : Path → FileState) (f : Formula) : Prop :=
  ∃ text, options.Gives found text ∧ (parse (some text) options.maxDepth).outcome = .ok f

/-- What there is to tell of the size of a table of `f` can be written in `longest` digits. -/
def Options.Tells (options : Options) (longest : Option Nat) (f : Formula) : Prop :=
  ∀ n ∈ TruthTable.numbersTold f.leaves.toFinset.card options.maxVariables,
    Numeral.isWritten longest n

/-- The obstacle that a run ends at, if at any, and when it does. -/
inductive Options.EndsAt (options : Options) (found : Path → FileState) (longest : Option Nat) :
    Option Obstacle → Prop where
  /-- There is neither a file nor a formula. -/
  | nothing (hfile : options.file = none) (hformula : options.formula = none) :
      EndsAt options found longest (some (.failed .nothingGiven))
  /-- The name of the file was left blank. -/
  | blankName (hfile : options.file = some .blank) :
      EndsAt options found longest (some (.brokenOff .blankFileName))
  /-- There is no formula in the file. -/
  | noFormula {file : String} {fault : FileFault} (hfile : options.file = some (.named file))
      (hfault : formulaIn (.ofText file) (found (.ofText file)) = .error fault) :
      EndsAt options found longest (some (.failed (.file fault)))
  /-- The text is not scanned to its end. -/
  | unscanned {text : String} {fault : Fault} (hgives : options.Gives found text)
      (hscan : (scan text).illegal ≠ none)
      (hparse : (parse (some text) options.maxDepth).outcome = .error fault) :
      EndsAt options found longest (some (.failed (.formula .scanning fault)))
  /-- The text is scanned and not parsed. -/
  | unparsed {text : String} {fault : Fault} (hgives : options.Gives found text)
      (hscan : (scan text).illegal = none)
      (hparse : (parse (some text) options.maxDepth).outcome = .error fault) :
      EndsAt options found longest (some (.failed (.formula .parsing fault)))
  /-- The text is a formula, and nothing else was asked. -/
  | checked {f : Formula} (hreads : options.Reads found f) (hcheck : options.validateOnly = true) :
      EndsAt options found longest none
  /-- The formula is analysed. -/
  | analysed {f : Formula} {limit : Int} (hreads : options.Reads found f)
      (hfull : options.validateOnly = false) (htells : options.Tells longest f)
      (hlimit : options.maxVariables = .whole limit)
      (hcount : f.leaves.toFinset.card ≤ limit) : EndsAt options found longest none
  /-- The size of the table cannot be told. -/
  | untold {f : Formula} {digits : Nat} (hreads : options.Reads found f)
      (hfull : options.validateOnly = false) (hlongest : longest = some digits)
      (huntold : ¬ options.Tells longest f) :
      EndsAt options found longest (some (.failed (.formula .value (.numberTooLong digits))))
  /-- The formula has too many variables. -/
  | oversized {f : Formula} {limit : Int} (hreads : options.Reads found f)
      (hfull : options.validateOnly = false) (htells : options.Tells longest f)
      (hlimit : options.maxVariables = .whole limit)
      (hcount : limit < f.leaves.toFinset.card) (hpower : Decimal.hasPowerOfTwo limit) :
      EndsAt options found longest
        (some (.failed (.formula .size (.tooManyVariables f.leaves.toFinset.card limit))))
  /-- The formula has too many variables, and there is no number of rows that the limit allows. -/
  | unworded {f : Formula} {limit : Int} (hreads : options.Reads found f)
      (hfull : options.validateOnly = false) (htells : options.Tells longest f)
      (hlimit : options.maxVariables = .whole limit)
      (hcount : limit < f.leaves.toFinset.card) (hpower : ¬ Decimal.hasPowerOfTwo limit) :
      EndsAt options found longest (some (.brokenOff .exponentOutOfRange))
  /-- The limit on the number of variables was left blank. -/
  | blankLimit {f : Formula} (hreads : options.Reads found f)
      (hfull : options.validateOnly = false) (hlimit : options.maxVariables = .blank) :
      EndsAt options found longest (some (.brokenOff .blankLimit))

/-- A size that cannot be told goes beyond a bound. -/
theorem Options.exists_longest {f : Formula} (h : ¬ options.Tells longest f) :
    ∃ digits, longest = some digits := by
  obtain ⟨digits, hdigits, -⟩ := TruthTable.sizeCheck_of_not_written h
  exact ⟨digits, hdigits⟩

/-- A formula that was read has a way to end. -/
theorem Options.Reads.exists_endsAt {f : Formula} (h : options.Reads found f) :
    ∃ obstacle, options.EndsAt found longest obstacle := by
  cases hcheck : options.validateOnly with
  | true => exact ⟨_, .checked h hcheck⟩
  | false =>
      by_cases htells : options.Tells longest f
      · cases hlimit : options.maxVariables with
        | blank => exact ⟨_, .blankLimit h hcheck hlimit⟩
        | whole limit =>
            by_cases hcount : limit < f.leaves.toFinset.card
            · by_cases hpower : Decimal.hasPowerOfTwo limit
              · exact ⟨_, .oversized h hcheck htells hlimit hcount hpower⟩
              · exact ⟨_, .unworded h hcheck htells hlimit hcount hpower⟩
            · exact ⟨_, .analysed h hcheck htells hlimit (Int.not_lt.mp hcount)⟩
      · obtain ⟨digits, hdigits⟩ := exists_longest htells
        exact ⟨_, .untold h hcheck hdigits htells⟩

/-- There is a way for every run. -/
theorem Options.exists_endsAt (options : Options) (found : Path → FileState)
    (longest : Option Nat) : ∃ obstacle, options.EndsAt found longest obstacle := by
  by_cases hgives : ∃ text, options.Gives found text
  · obtain ⟨text, hgives⟩ := hgives
    cases hparse : (parse (some text) options.maxDepth).outcome with
    | error fault =>
        by_cases hscan : (scan text).illegal = none
        · exact ⟨_, .unparsed hgives hscan hparse⟩
        · exact ⟨_, .unscanned hgives hscan hparse⟩
    | ok f => exact Reads.exists_endsAt ⟨text, hgives, hparse⟩
  · cases hfile : options.file with
    | none =>
        cases hformula : options.formula with
        | none => exact ⟨_, .nothing hfile hformula⟩
        | some text => exact absurd ⟨text, .inr ⟨hfile, hformula⟩⟩ hgives
    | some name =>
        cases name with
        | blank => exact ⟨_, .blankName hfile⟩
        | named file =>
            cases hfault : formulaIn (.ofText file) (found (.ofText file)) with
            | error fault => exact ⟨_, .noFormula hfile hfault⟩
            | ok text =>
                exact absurd ⟨text, .inl ⟨file, hfile, formulaIn_eq_ok_iff.mp hfault⟩⟩ hgives

/-- A text whose treatment succeeds ends the run without an obstacle. -/
theorem Options.perform_of_treat_ok {text : String} (h : options.Gives found text)
    (htreat : (options.treat text longest).outcome = .ok ()) :
    options.perform found longest = ((options.treat text longest).entries, none) := by
  simp only [perform, text_eq_ok_iff.mpr h, htreat]

/-- A text whose treatment ends in a fault ends the run at the obstacle for it. -/
theorem Options.perform_of_treat_error {text : String} {fault : Fault}
    (h : options.Gives found text) (htreat : (options.treat text longest).outcome = .error fault) :
    options.perform found longest =
      ((options.treat text longest).entries ++ (Obstacle.ofFault fault).entries,
        some (.ofFault fault)) := by
  simp only [perform, text_eq_ok_iff.mpr h, htreat]

/-- A formula that was read is analysed if it passes the check of its size. -/
theorem Options.run_outcome (options : Options) (longest : Option Nat) {source : Source}
    {f : Formula} (h : (parse source options.maxDepth).outcome = .ok f) :
    (Analysis.run source options.maxVariables options.maxDepth longest).outcome =
      (TruthTable.sizeCheck f.leaves.toFinset.card options.maxVariables longest).map fun _ =>
        .complete source f := by
  rw [Analysis.run_within_outcome, h, ← f.length_vars]
  rfl

/-- A text that is not read ends the run at its fault. -/
theorem Options.obstacle_of_unread {text : String} {fault : Fault} {kind : FaultKind}
    (hgives : options.Gives found text)
    (hparse : (parse (some text) options.maxDepth).outcome = .error fault)
    (hkind : FaultKind.of? fault = some kind) :
    (options.perform found longest).2 = some (.failed (.formula kind fault)) := by
  rw [perform_of_treat_error hgives (treat_of_unread hparse), Obstacle.ofFault, hkind]

/-- A formula that is not analysed ends the run at what the check of its size found. -/
theorem Options.Reads.obstacle_eq {f : Formula} {fault : Fault} (h : options.Reads found f)
    (hfull : options.validateOnly = false)
    (hsize : TruthTable.sizeCheck f.leaves.toFinset.card options.maxVariables longest =
      .error fault) : (options.perform found longest).2 = some (.ofFault fault) := by
  obtain ⟨text, hgives, hparse⟩ := h
  have hrun := options.run_outcome longest hparse
  rw [hsize] at hrun
  rw [perform_of_treat_error hgives (treat_of_run_error hfull hrun).1]

/-- A formula that is checked is found to be one, and the run ends with that. -/
theorem Options.perform_of_validateOnly {f : Formula} (hreads : options.Reads found f)
    (hcheck : options.validateOnly = true) :
    ∃ remarks, (∀ entry ∈ remarks, entry.IsRemark) ∧
      options.perform found longest =
        (remarks ++ [.printed "Formula is well-formed"], none) := by
  obtain ⟨text, hgives, hparse⟩ := hreads
  obtain ⟨remarks, hremarks, htreat⟩ := options.treat_of_checked longest hcheck hparse
  refine ⟨remarks, hremarks, ?_⟩
  rw [perform_of_treat_ok hgives (congrArg Script.outcome htreat), htreat]

/-- A formula that is analysed is reported, and the run ends with the report. -/
theorem Options.perform_of_check {text : String} {f : Formula} (hgives : options.Gives found text)
    (hparse : (parse (some text) options.maxDepth).outcome = .ok f)
    (hfull : options.validateOnly = false)
    (hsize : TruthTable.sizeCheck f.leaves.toFinset.card options.maxVariables longest = .ok ()) :
    ∃ remarks header, (∀ entry ∈ remarks, entry.IsRemark) ∧
      (respell options.symbols (some text)).outcome = .ok header ∧
      options.perform found longest =
        (remarks ++ reportEntries options.symbols header (.complete (some text) f), none) := by
  have hrun := options.run_outcome longest hparse
  rw [hsize] at hrun
  obtain ⟨remarks, header, hremarks, hheader, htreat⟩ := treat_of_run_ok hfull hrun
  refine ⟨remarks, header, hremarks, hheader, ?_⟩
  rw [perform_of_treat_ok hgives (congrArg Script.outcome htreat), htreat]

/-- The check of a size that can be told is that of the number of variables. -/
theorem Options.Tells.sizeCheck_eq {f : Formula} {limit : Int} (h : options.Tells longest f)
    (hlimit : options.maxVariables = .whole limit) :
    TruthTable.sizeCheck f.leaves.toFinset.card options.maxVariables longest =
      if limit < f.leaves.toFinset.card then
        .error (TruthTable.excess f.leaves.toFinset.card limit)
      else .ok () := by
  rw [TruthTable.sizeCheck_of_written h, hlimit, Limit.check]

/-- A table within the limit, and with a size that can be told, passes the check. -/
theorem Options.Tells.sizeCheck_eq_ok {f : Formula} {limit : Int} (h : options.Tells longest f)
    (hlimit : options.maxVariables = .whole limit) (hcount : f.leaves.toFinset.card ≤ limit) :
    TruthTable.sizeCheck f.leaves.toFinset.card options.maxVariables longest = .ok () := by
  rw [h.sizeCheck_eq hlimit, if_neg (Int.not_lt.mpr hcount)]

/-- A run ends where its way says. -/
theorem Options.EndsAt.obstacle_eq {obstacle : Option Obstacle}
    (h : options.EndsAt found longest obstacle) :
    (options.perform found longest).2 = obstacle := by
  cases h with
  | nothing hfile hformula => simp [perform, text, hfile, hformula]
  | blankName hfile => simp [perform, text, hfile]
  | noFormula hfile hfault => simp [perform, text, hfile, hfault]
  | unscanned hgives hscan hparse =>
      apply obstacle_of_unread hgives hparse
      rw [kind_of_parse hparse, if_neg hscan]
  | unparsed hgives hscan hparse =>
      apply obstacle_of_unread hgives hparse
      rw [kind_of_parse hparse, if_pos hscan]
  | checked hreads hcheck =>
      obtain ⟨remarks, -, hperform⟩ := perform_of_validateOnly hreads hcheck
      rw [hperform]
  | analysed hreads hfull htells hlimit hcount =>
      obtain ⟨text, hgives, hparse⟩ := hreads
      have hsize := htells.sizeCheck_eq_ok hlimit hcount
      obtain ⟨remarks, header, -, -, hperform⟩ := perform_of_check hgives hparse hfull hsize
      rw [hperform]
  | untold hreads hfull hlongest huntold =>
      obtain ⟨digits, hdigits, hsize⟩ := TruthTable.sizeCheck_of_not_written huntold
      obtain rfl := Option.some.inj (hlongest.symm.trans hdigits)
      exact hreads.obstacle_eq hfull hsize
  | @oversized f limit hreads hfull htells hlimit hcount hpower =>
      have hsize : TruthTable.sizeCheck f.leaves.toFinset.card options.maxVariables longest =
          .error (.tooManyVariables f.leaves.toFinset.card limit) := by
        rw [htells.sizeCheck_eq hlimit, if_pos hcount, TruthTable.excess, if_pos hpower]
      exact hreads.obstacle_eq hfull hsize
  | @unworded f limit hreads hfull htells hlimit hcount hpower =>
      have hsize : TruthTable.sizeCheck f.leaves.toFinset.card options.maxVariables longest =
          .error .exponentOutOfRange := by
        rw [htells.sizeCheck_eq hlimit, if_pos hcount, TruthTable.excess, if_neg hpower]
      exact hreads.obstacle_eq hfull hsize
  | @blankLimit f hreads hfull hlimit =>
      have hsize : TruthTable.sizeCheck f.leaves.toFinset.card options.maxVariables longest =
          .error .blankLimit := by
        rw [TruthTable.sizeCheck_of_written (by simp [hlimit, TruthTable.numbersTold]), hlimit,
          Limit.check]
      exact hreads.obstacle_eq hfull hsize

/-- The ways exclude one another, but for the two that end at no obstacle, and one of them is
taken. -/
theorem Options.endsAt_iff {obstacle : Option Obstacle} :
    options.EndsAt found longest obstacle ↔ (options.perform found longest).2 = obstacle := by
  refine ⟨EndsAt.obstacle_eq, ?_⟩
  rintro rfl
  obtain ⟨obstacle, hends⟩ := options.exists_endsAt found longest
  rwa [hends.obstacle_eq]

/-- A run that ends at an obstacle has said nothing but remarks in front of it. -/
theorem Options.perform_of_obstacle {obstacle : Obstacle}
    (h : (options.perform found longest).2 = some obstacle) :
    ∃ remarks, (∀ entry ∈ remarks, entry.IsRemark) ∧
      (options.perform found longest).1 = remarks ++ obstacle.entries := by
  unfold perform at h ⊢
  cases htext : options.text found with
  | error found' =>
      rw [htext] at h
      obtain rfl := Option.some.inj h
      exact ⟨[], List.forall_mem_nil _, rfl⟩
  | ok text =>
      rw [htext] at h
      cases houtcome : (options.treat text longest).outcome with
      | ok _ => simp [houtcome] at h
      | error fault =>
          simp only [houtcome, Option.some.injEq] at h ⊢
          exact ⟨_, onlyRemarks_treat houtcome, by rw [h]⟩

end Ends

end CommandLine

end Sentential
