/-
# Sentential.Parser.Reader -- from a text to a formula

A reader scans a text completely, then parses the tokens, then checks how deeply the formula is
nested; the first of these that fails decides the outcome. It keeps the tokens of the last text
that could be scanned, and takes from there what it reports at the end of a text and what it
measures the depth of. Reading is a script: each stage leaves a record. The refusal of a formula
that is nested too deep tells the limit in full, however many digits it has.
-/
import Sentential.Formula.Traversal
import Sentential.Limit
import Sentential.Parser.Diagnosis
import Sentential.Parser.State
import Sentential.Token.Nesting
import Sentential.Token.Source

namespace Sentential

/-! ## The reader -/

/-- The name of the root of a formula in records. -/
def Formula.rootName : Formula → String
  | .var _ => "Var"
  | .neg _ => "Not"
  | .binary .and _ _ => "And"
  | .binary .or _ _ => "Or"
  | .binary .implies _ _ => "Implies"
  | .binary .iff _ _ => "Equiv"

/-- A parser with its depth limit and the tokens it scanned last. -/
structure Reader where
  maxDepth : Limit
  scanned : List Token
  deriving DecidableEq, Repr

namespace Reader

/-- A reader that has scanned nothing. -/
def new (maxDepth : Limit) : Reader := ⟨maxDepth, []⟩

/-- The formula that the scanned tokens make. -/
def formula (reader : Reader) : Except Fault Formula :=
  match Parser.State.start.run reader.scanned with
  | .error token => .error (.unexpectedToken token)
  | .ok state =>
    match state.result? with
    | some f => .ok f
    | none => .error (Parser.endFault reader.scanned)

/-- The nesting depth of the scanned tokens, if it is within the limit. -/
def depth (reader : Reader) : Except Fault Nat :=
  match nestingDepth? reader.scanned with
  | none => .error .emptyStack
  | some depth => (reader.maxDepth.check depth (.nestedTooDeep depth)).map fun () => depth

/-- The formula of the scanned tokens, after a check of its depth. -/
def interpret (reader : Reader) : Script Formula := do
  let f ← .ofExcept reader.formula
  let depth ← .ofExcept reader.depth
  .detail ("Successfully parsed formula into " ++ f.rootName ++ " of height " ++
    toString f.walkedHeight ++ ", nesting depth " ++ toString depth)
  return f

/-- Reads a text; the reader that is left keeps the tokens of this text if it could be scanned,
and those it had before otherwise. -/
def read (reader : Reader) (source : Source) : Reader × Script Formula :=
  let opening : Script Unit := .detail ("Parsing formula: " ++ source.shown)
  let tokens := tokenize source
  match tokens.outcome with
  | .ok scanned =>
    let reader := { reader with scanned }
    (reader, opening >>= fun _ => tokens >>= fun _ => reader.interpret)
  | .error fault => (reader, opening >>= fun _ => tokens >>= fun _ => .fail fault)

/-- Reads texts one after another. -/
def readAll (reader : Reader) : List Source → List (Script Formula)
  | [] => []
  | source :: rest =>
    let (reader, result) := reader.read source
    result :: reader.readAll rest

end Reader

/-! ## Reading one text -/

/-- The greatest nesting depth accepted unless another is asked for. -/
def defaultMaxDepth : Int := 200

/-- What there is to say when a text has been read. -/
def closingRemark : Except Fault Formula → String
  | .ok f => "Formula parsed successfully into AST with type: " ++ f.rootName
  | .error fault =>
    if fault.isFormulaFault then fault.name ++ " encountered during formula parsing"
    else "Unexpected parsing error: " ++ fault.name ++ ": " ++ fault.message

/-- The outcome of reading as it is reported: a fault that is not the formula's makes the text
unreadable. -/
def reported : Except Fault Formula → Except Fault Formula
  | .ok f => .ok f
  | .error fault => .error (if fault.isFormulaFault then fault else .unreadable fault.message)

/-- The formula of a text, read by a reader of its own. -/
def parse (source : Source) (maxDepth : Limit) : Script Formula :=
  let reading := ((Reader.new maxDepth).read source).2
  ⟨.record .debug ("Parsing formula: " ++ source.shown) ::
      reading.entries ++ [.record .debug (closingRemark reading.outcome)],
    reported reading.outcome⟩

end Sentential
