/-
# Sentential.Proofs.Analysis.Remarks -- what an analysis says on its way

Reading a text, enumerating a table and deriving its forms leave records, all of them below errors,
and print nothing. Whether a computation succeeds or not, its entries are remarks: what is printed
and what is reported as an error is left to the program around it. Remarks are kept by every
composition of scripts, so one statement for each stage is enough.
-/
import Sentential.Analysis

namespace Sentential

/-- A record that reports no error. -/
def Entry.IsRemark : Entry → Prop
  | .record level _ => level ≠ .error
  | .printed _ => False

namespace Script

variable {α β : Type}

/-- All that the script says is remarks. -/
def OnlyRemarks (script : Script α) : Prop := ∀ entry ∈ script.entries, entry.IsRemark

theorem onlyRemarks_pure (value : α) : (pure value : Script α).OnlyRemarks :=
  List.forall_mem_nil _

theorem onlyRemarks_fail (fault : Fault) : (fail fault : Script α).OnlyRemarks :=
  List.forall_mem_nil _

theorem onlyRemarks_ofExcept (outcome : Except Fault α) : (ofExcept outcome).OnlyRemarks :=
  List.forall_mem_nil _

theorem onlyRemarks_record {level : Level} (h : level ≠ .error) (message : String) :
    (record level message).OnlyRemarks :=
  List.forall_mem_singleton.mpr h

theorem onlyRemarks_detail (message : String) : (detail message).OnlyRemarks :=
  onlyRemarks_record (by decide) message

/-- What goes on from remarks with remarks is remarks. -/
theorem OnlyRemarks.bind {first : Script α} {next : α → Script β} (hfirst : first.OnlyRemarks)
    (hnext : ∀ value, (next value).OnlyRemarks) : (first >>= next).OnlyRemarks := by
  cases houtcome : first.outcome with
  | ok value =>
      rw [bind_ok houtcome]
      exact List.forall_mem_append.mpr ⟨hfirst, hnext value⟩
  | error fault =>
      rw [bind_error houtcome]
      exact hfirst

end Script

open Script

/-! ## Reading -/

theorem onlyRemarks_tokenize (source : Source) : (tokenize source).OnlyRemarks := by
  cases source with
  | none => exact onlyRemarks_fail _
  | some text =>
      simp only [tokenize]
      cases (scan text).illegal with
      | none => exact (onlyRemarks_detail _).bind fun _ => onlyRemarks_pure _
      | some c => exact (onlyRemarks_detail _).bind fun _ => onlyRemarks_fail _

namespace Reader

theorem onlyRemarks_interpret (reader : Reader) : reader.interpret.OnlyRemarks := by
  refine (onlyRemarks_ofExcept _).bind fun f => ?_
  refine (onlyRemarks_ofExcept _).bind fun depth => ?_
  exact (onlyRemarks_detail _).bind fun _ => onlyRemarks_pure f

theorem onlyRemarks_read (reader : Reader) (source : Source) :
    (reader.read source).2.OnlyRemarks := by
  have htokens := onlyRemarks_tokenize source
  simp only [read]
  cases (tokenize source).outcome with
  | ok scanned =>
      exact (onlyRemarks_detail _).bind fun _ => htokens.bind fun _ => onlyRemarks_interpret _
  | error fault =>
      exact (onlyRemarks_detail _).bind fun _ => htokens.bind fun _ => onlyRemarks_fail fault

end Reader

/-- A reading is surrounded by details. -/
theorem onlyRemarks_parse (source : Source) (maxDepth : Limit) :
    (parse source maxDepth).OnlyRemarks := by
  have hreading := Reader.onlyRemarks_read (.new maxDepth) source
  have hdetail : ∀ message, (Entry.record .debug message).IsRemark := fun _ => by
    simp [Entry.IsRemark]
  refine List.forall_mem_append.mpr ⟨?_, ?_⟩
  · exact List.forall_mem_cons.mpr ⟨hdetail _, hreading⟩
  · exact List.forall_mem_singleton.mpr (hdetail _)

/-! ## The stages behind it -/

theorem TruthTable.onlyRemarks_enumerate (f : Formula) (columns : List String)
    (maxVariables : Limit) (longest : Option Nat) :
    (enumerate f columns maxVariables longest).OnlyRemarks := by
  refine (onlyRemarks_ofExcept _).bind fun _ => ?_
  refine (onlyRemarks_detail _).bind fun _ => ?_
  refine (onlyRemarks_ofExcept _).bind fun rows => ?_
  exact (onlyRemarks_detail _).bind fun _ => onlyRemarks_pure _

theorem TruthTable.onlyRemarks_canonicalForms (table : TruthTable) :
    table.canonicalForms.OnlyRemarks :=
  (onlyRemarks_detail _).bind fun _ => onlyRemarks_pure _

theorem Analysis.onlyRemarks_run (source : Source) (maxVariables maxDepth : Limit)
    (longest : Option Nat) : (run source maxVariables maxDepth longest).OnlyRemarks := by
  refine (onlyRemarks_detail _).bind fun _ => ?_
  refine (onlyRemarks_parse source maxDepth).bind fun f => ?_
  refine (onlyRemarks_detail _).bind fun _ => ?_
  refine (TruthTable.onlyRemarks_enumerate f f.vars maxVariables longest).bind fun table => ?_
  refine (TruthTable.onlyRemarks_canonicalForms table).bind fun forms => ?_
  exact (onlyRemarks_detail _).bind fun _ => onlyRemarks_pure _

theorem onlyRemarks_respell (symbols : Symbols) (source : Source) :
    (respell symbols source).OnlyRemarks :=
  (onlyRemarks_tokenize source).bind fun _ => onlyRemarks_pure _

end Sentential
