/-
# Sentential.Journal.Level -- how serious a record is, and how it is written

Records come in four levels. From information upwards a record is written as its bare message; a
record below that has its level in brackets in front, so that details stand out from results.
-/

namespace Sentential

/-- How serious a record is. -/
inductive Level where
  | debug
  | info
  | warning
  | error
  deriving DecidableEq, Repr, Inhabited

namespace Level

/-- The place of a level on the scale that severities are compared on. -/
def severity : Level → Nat
  | .debug => 10
  | .info => 20
  | .warning => 30
  | .error => 40

def name : Level → String
  | .debug => "DEBUG"
  | .info => "INFO"
  | .warning => "WARNING"
  | .error => "ERROR"

/-- The level of that name. -/
def ofName? : String → Option Level
  | "DEBUG" => some .debug
  | "INFO" => some .info
  | "WARNING" => some .warning
  | "ERROR" => some .error
  | _ => none

theorem ofName?_name (level : Level) : ofName? level.name = some level := by
  cases level <;> rfl

/-- A record of level `level` passes a threshold. -/
def passes (level threshold : Level) : Bool := threshold.severity ≤ level.severity

end Level

/-! ## The written form -/

/-- The tag of a severity below information: the two that have a name carry it, the others their
number. -/
def severityTag (severity : Int) : String :=
  if severity = 0 then "NOTSET"
  else if severity = Level.debug.severity then Level.debug.name
  else "Level " ++ toString severity

/-- A record as it is written, for any severity. -/
def recordText (severity : Int) (message : String) : String :=
  if (Level.info.severity : Int) ≤ severity then message
  else "[" ++ severityTag severity ++ "] " ++ message

end Sentential
