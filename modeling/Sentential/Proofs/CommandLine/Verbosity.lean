/-
# Sentential.Proofs.CommandLine.Verbosity -- what the verbosity of a run can change

The two flags for verbosity choose a threshold, and the threshold is first asked when the run is
over: the entries of a run and the obstacle that it ends at are the same at every threshold. So two
runs that differ in these flags alone end alike, and the output of the quieter one is the output of
the other without the records below its threshold.
-/
import Sentential.CommandLine.Run
import Sentential.Proofs.Journal.Shown

namespace Sentential.CommandLine

/-- The threshold that the options choose. -/
def Options.threshold (options : Options) : Level :=
  Journal.levelFor options.verbose options.debug

/-- The options with other flags for verbosity. -/
def Options.voiced (options : Options) (verbose debug : Bool) : Options :=
  { options with verbose, debug }

/-- A run writes the entries that are seen at its threshold, and ends as its obstacle says. -/
theorem Options.execute_eq (options : Options) (found : Path → FileState) (longest : Option Nat) :
    options.execute found longest =
      .ofRun (Entry.text (Entry.shown options.threshold (options.perform found longest).1))
        (options.perform found longest).2 := by
  rw [execute, ← threshold]
  simp only [Journal.transcript_setMainLevel]

/-- What a run comes to does not depend on its verbosity. -/
theorem Options.perform_voiced (options : Options) (verbose debug : Bool)
    (found : Path → FileState) (longest : Option Nat) :
    (options.voiced verbose debug).perform found longest = options.perform found longest := rfl

section Reports

variable (output output' : String) (obstacle : Option Obstacle)

theorem Report.exitCode_ofRun :
    (Report.ofRun output obstacle).exitCode = (Report.ofRun output' obstacle).exitCode := by
  rcases obstacle with _ | (_ | _) <;> rfl

theorem Report.output_ofRun : (Report.ofRun output obstacle).output = output := by
  rcases obstacle with _ | (_ | _) <;> rfl

theorem Report.brokenBy_ofRun :
    (Report.ofRun output obstacle).brokenBy = (Report.ofRun output' obstacle).brokenBy := by
  rcases obstacle with _ | (_ | _) <;> rfl

end Reports

/-- Two runs that differ in their verbosity have the same exit code, and break off at the same fault
or both not. The one with the higher threshold writes what the other writes without the records
below that threshold; everything else is there and in the same order. -/
theorem verbosity_only_hides_records (options : Options) (found : Path → FileState)
    (verbose debug verbose' debug' : Bool) :
    let talkative := options.voiced verbose debug
    let quiet := options.voiced verbose' debug'
    let seen := Entry.shown talkative.threshold (talkative.perform found).1
    (quiet.execute found).exitCode = (talkative.execute found).exitCode ∧
    (quiet.execute found).brokenBy = (talkative.execute found).brokenBy ∧
    (talkative.threshold.severity ≤ quiet.threshold.severity →
      (talkative.execute found).output = Entry.text seen ∧
      (quiet.execute found).output = Entry.text (Entry.shown quiet.threshold seen)) := by
  intro talkative quiet seen
  have hsame : quiet.perform found = talkative.perform found :=
    (options.perform_voiced ..).trans (options.perform_voiced ..).symm
  rw [quiet.execute_eq, talkative.execute_eq, hsame]
  refine ⟨Report.exitCode_ofRun .., Report.brokenBy_ofRun .., ?_⟩
  intro hlevels
  rw [Report.output_ofRun, Report.output_ofRun, Entry.shown_shown hlevels]
  exact ⟨rfl, rfl⟩

/-- A check that reports details on the way says of its result what it says without them. -/
theorem check_is_silent_but_for_its_result :
    let options : Options := { Options.default with formula := some "A & B", validateOnly := true }
    let talkative := options.voiced false true
    let quiet := options.voiced true false
    let seen := Entry.shown .debug (talkative.perform fun _ => .missing).1
    (quiet.execute fun _ => .missing).exitCode = (talkative.execute fun _ => .missing).exitCode ∧
    Entry.printed "Formula is well-formed" ∈ seen ∧
    (quiet.execute fun _ => .missing).output = Entry.text (Entry.shown .info seen) ∧
    Entry.shown .info seen =
      [.record .info "📋 Formula loaded: A & B", .record .info "✅ Formula is well-formed: A & B",
        .printed "Formula is well-formed"] := by
  intro options talkative quiet seen
  obtain ⟨hexit, -, houtput⟩ :=
    verbosity_only_hides_records options (fun _ => .missing) false true true false
  have hshown : Entry.shown .info seen =
      [.record .info "📋 Formula loaded: A & B", .record .info "✅ Formula is well-formed: A & B",
        .printed "Formula is well-formed"] := rfl
  have hprinted : Entry.printed "Formula is well-formed" ∈ Entry.shown .info seen := by
    rw [hshown]
    simp
  exact ⟨hexit, (List.mem_filter.mp hprinted).1, (houtput (by decide)).2, hshown⟩

end Sentential.CommandLine
