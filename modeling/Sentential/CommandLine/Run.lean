/-
# Sentential.CommandLine.Run -- what the program does with a command line

The formula comes from the file if one is named and from the command line otherwise. It is either
only checked, or analysed and reported: the table under the formula in the chosen symbols, then
the two normal forms. Records and report go to the same output in the order they arise. A failure
leaves one error record behind and decides the exit code. Which faults are failures is decided by
their kind alone, wherever they come from; a fault of any other kind breaks the program off instead.
-/
import Sentential.CommandLine.FormulaFile
import Sentential.CommandLine.Options
import Sentential.Journal.Basic
import Sentential.Analysis
import Sentential.TruthTable.Rendering

namespace Sentential.CommandLine

/-! ## Failures -/

/-- The kinds of fault that the program is prepared for. -/
inductive FaultKind where
  /-- The text cannot be scanned. -/
  | scanning
  /-- The text cannot be parsed. -/
  | parsing
  /-- The formula has too many variables. -/
  | size
  /-- A value cannot be used, which is taken to come from the file. -/
  | value
  deriving DecidableEq, Repr

namespace FaultKind

/-- The kind of a fault, if it is one that the program is prepared for. -/
def of? : Fault → Option FaultKind
  | .illegalCharacter .. => some scanning
  | .unexpectedToken .. => some parsing
  | .emptyFormula => some parsing
  | .missingOperand .. => some parsing
  | .unclosedGroups .. => some parsing
  | .nestedTooDeep .. => some parsing
  | .unreadable .. => some parsing
  | .tooManyVariables .. => some size
  | .constantForm .. => some value
  | .numberTooLong .. => some value
  | .unboundVariable .. => none
  | .emptyClause => none
  | .emptyStack => none
  | .missingText => none
  | .blankLimit => none
  | .blankFileName => none
  | .exponentOutOfRange => none

/-- The exit code for faults of a kind. -/
def exitCode : FaultKind → Nat
  | scanning => 1
  | parsing => 2
  | size => 3
  | value => 4

/-- What stands in front of the fault in its record. -/
def heading : FaultKind → String
  | scanning => "Formula scanning error: "
  | parsing => "Formula parsing error: "
  | size => "Truth table too large: "
  | value => "Formula file error: "

end FaultKind

/-- Why the program has nothing to report. -/
inductive Failure where
  /-- Neither a formula nor a file was given. -/
  | nothingGiven
  /-- There is no formula in the file. -/
  | file (fault : FileFault)
  /-- The formula could not be analysed. -/
  | formula (kind : FaultKind) (fault : Fault)
  deriving DecidableEq, Repr

namespace Failure

/-- The exit code of a failure. -/
def exitCode : Failure → Nat
  | .nothingGiven => 4
  | .file _ => FaultKind.value.exitCode
  | .formula kind _ => kind.exitCode

/-- A failure in words. -/
def message : Failure → String
  | .nothingGiven => "No formula given; pass one as an argument or with --file"
  | .file fault => FaultKind.value.heading ++ fault.message
  | .formula kind fault => kind.heading ++ fault.message

end Failure

/-- What keeps the program from its report. -/
inductive Obstacle where
  /-- A failure that the program is prepared for. -/
  | failed (failure : Failure)
  /-- Any other fault; the program breaks off. -/
  | brokenOff (fault : Fault)
  deriving DecidableEq, Repr

/-- What a fault of an analysis means for the program. -/
def Obstacle.ofFault (fault : Fault) : Obstacle :=
  match FaultKind.of? fault with
  | some kind => .failed (.formula kind fault)
  | none => .brokenOff fault

/-- The record that an obstacle leaves behind. -/
def Obstacle.entries : Obstacle → List Entry
  | .failed failure => [.record .error failure.message]
  | .brokenOff _ => []

/-! ## The work -/

/-- The formula that the options ask for; `found` is what is at the path of the file. -/
def Options.text (options : Options) (found : Path → FileState) : Except Obstacle String :=
  match options.file with
  | some (.named file) =>
    let path := Path.ofText file
    match formulaIn path (found path) with
    | .ok text => .ok text
    | .error fault => .error (.failed (.file fault))
  | some .blank => .error (.brokenOff .blankFileName)
  | none =>
    match options.formula with
    | some text => .ok text
    | none => .error (.failed .nothingGiven)

/-- The symbols that the options ask for. -/
def Options.symbols (options : Options) : Symbols := if options.ascii then .ascii else .unicode

/-- Reports an analysis: the table, an empty line, and the two forms. -/
def reportAnalysis (symbols : Symbols) (analysis : Analysis) : Script Unit := do
  let header ← respell symbols analysis.source
  .print (analysis.table.render (.titled (some header)))
  .print ""
  .print ("DNF: " ++ analysis.dnf.render symbols)
  .print ("CNF: " ++ analysis.cnf.render symbols)

/-- The longest number that the program writes, in digits, unless it is run with another bound. -/
def longestNumber : Option Nat := some Text.maxDigits

/-- Checks a formula, or analyses and reports it. -/
def Options.treat (options : Options) (text : String) (longest : Option Nat := longestNumber) :
    Script Unit := do
  .record .info ("📋 Formula loaded: " ++ text)
  if options.validateOnly then
    let _ ← parse (some text) options.maxDepth
    .record .info (Analysis.validRemark (some text))
    .print "Formula is well-formed"
  else
    let analysis ← Analysis.run (some text) options.maxVariables options.maxDepth longest
    reportAnalysis options.symbols analysis

/-- What the options lead to: everything that is said, and the obstacle, if it ends at one. -/
def Options.perform (options : Options) (found : Path → FileState)
    (longest : Option Nat := longestNumber) : List Entry × Option Obstacle :=
  match options.text found with
  | .error obstacle => (obstacle.entries, some obstacle)
  | .ok text =>
    let script := options.treat text longest
    match script.outcome with
    | .ok () => (script.entries, none)
    | .error fault =>
      let obstacle := Obstacle.ofFault fault
      (script.entries ++ obstacle.entries, some obstacle)

/-! ## The program -/

/-- How a run of the program ends: its exit code, what it wrote, and what broke it off. -/
structure Report where
  exitCode : Nat
  output : String
  complaint : String
  brokenBy : Option Fault
  deriving DecidableEq, Repr

/-- The report of a run that wrote `output` and ended at `obstacle`, if at any. -/
def Report.ofRun (output : String) : (obstacle : Option Obstacle) → Report
  | none => ⟨0, output, "", none⟩
  | some (.failed failure) => ⟨failure.exitCode, output, "", none⟩
  | some (.brokenOff fault) => ⟨1, output, fault.name ++ ": " ++ fault.message ++ "\n", some fault⟩

/-- Carries options out, with records shown as their verbosity says. -/
def Options.execute (options : Options) (found : Path → FileState)
    (longest : Option Nat := longestNumber) : Report :=
  let journal := Journal.start.setMainLevel (Journal.levelFor options.verbose options.debug)
  let (entries, obstacle) := options.perform found longest
  .ofRun (journal.transcript entries) obstacle

/-- Runs the program on the words of its command line. -/
def execute (words : List String) (found : Path → FileState)
    (longest : Option Nat := longestNumber) : Report :=
  match Options.ofWords words with
  | .error .help => ⟨0, linesText helpLines, "", none⟩
  | .error (.fault fault) => ⟨2, "", fault.report, none⟩
  | .ok options => options.execute found longest

end Sentential.CommandLine
