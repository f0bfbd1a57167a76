/-
# Sentential.Journal.Script -- computations that keep a record of what they do

A script has an outcome, a value or a fault, and everything it has to say on the way: records,
which are shown or not depending on how talkative the reader wants the program, and printed text,
which is always shown. The entries are kept whatever the verbosity, so that what is shown is a
choice among them and can never change the outcome.
-/
import Sentential.Fault
import Sentential.Journal.Level

namespace Sentential

/-- Something a script says. -/
inductive Entry where
  | record (level : Level) (message : String)
  | printed (text : String)
  deriving DecidableEq, Repr

/-- A computation's entries, in order, and its outcome. -/
structure Script (α : Type) where
  entries : List Entry
  outcome : Except Fault α

namespace Script

variable {α β : Type}

/-- The value, and nothing to say. -/
def done (value : α) : Script α := ⟨[], .ok value⟩

/-- The fault, and nothing to say. -/
def fail (fault : Fault) : Script α := ⟨[], .error fault⟩

/-- Goes on with the value of `first`; a fault ends the script. -/
def andThen (first : Script α) (next : α → Script β) : Script β :=
  match first.outcome with
  | .ok value => ⟨first.entries ++ (next value).entries, (next value).outcome⟩
  | .error fault => ⟨first.entries, .error fault⟩

instance : Monad Script where
  pure := done
  bind := andThen

/-- An outcome without entries. -/
def ofExcept (outcome : Except Fault α) : Script α := ⟨[], outcome⟩

/-- One record. -/
def record (level : Level) (message : String) : Script Unit := ⟨[.record level message], .ok ()⟩

/-- One record of the lowest level. -/
def detail (message : String) : Script Unit := record .debug message

/-- Text for the reader, whatever the verbosity. -/
def print (text : String) : Script Unit := ⟨[.printed text], .ok ()⟩

theorem bind_ok {first : Script α} {value : α} (h : first.outcome = .ok value)
    (next : α → Script β) :
    first >>= next = ⟨first.entries ++ (next value).entries, (next value).outcome⟩ := by
  show andThen first next = _
  simp [andThen, h]

theorem bind_error {first : Script α} {fault : Fault} (h : first.outcome = .error fault)
    (next : α → Script β) : first >>= next = ⟨first.entries, .error fault⟩ := by
  show andThen first next = _
  simp [andThen, h]

/-! ## Outcomes -/

@[simp]
theorem outcome_pure (value : α) : (pure value : Script α).outcome = .ok value := rfl

@[simp]
theorem outcome_fail (fault : Fault) : (fail fault : Script α).outcome = .error fault := rfl

@[simp]
theorem outcome_ofExcept (outcome : Except Fault α) : (ofExcept outcome).outcome = outcome := rfl

@[simp]
theorem outcome_detail (message : String) : (detail message).outcome = .ok () := rfl

/-- The outcome of a sequence depends on the outcomes of its parts and not on what they say. -/
@[simp]
theorem outcome_bind (first : Script α) (next : α → Script β) :
    (first >>= next).outcome = first.outcome.bind fun value => (next value).outcome := by
  cases h : first.outcome with
  | ok value => rw [bind_ok h]; rfl
  | error fault => rw [bind_error h]; rfl

end Script

end Sentential
