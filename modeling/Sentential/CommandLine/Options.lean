/-
# Sentential.CommandLine.Options -- what a command line asks for

The words are taken from left to right. The first plain word is the formula, and a separator next
to it, or before any formula, is passed over; every other word that nothing asks for is left over,
and a command line with words left over is refused, unless help was asked for on the way. Several
short options may share one dash. A repeated option has its last value. A separator attached to an
option leaves it blank.
-/
import Sentential.CommandLine.Word
import Sentential.Parser.Reader
import Sentential.Text.Integer
import Sentential.TruthTable.Enumeration

namespace Sentential.CommandLine

/-- The name of a file, which can be left blank. -/
inductive FileName where
  | named (text : String)
  | blank
  deriving DecidableEq, Repr

/-- What a command line asks for. -/
structure Options where
  formula : Option String
  file : Option FileName
  ascii : Bool
  maxVariables : Limit
  maxDepth : Limit
  validateOnly : Bool
  verbose : Bool
  debug : Bool
  deriving DecidableEq, Repr

/-- What an empty command line asks for. -/
def Options.default : Options where
  formula := none
  file := none
  ascii := false
  maxVariables := defaultMaxVariables
  maxDepth := defaultMaxDepth
  validateOnly := false
  verbose := false
  debug := false

/-- Why reading a command line ends without options. -/
inductive Interruption where
  /-- Help was asked for. -/
  | help
  /-- Something is wrong. -/
  | fault (fault : UsageFault)
  deriving DecidableEq, Repr

/-! ## Options and their values -/

/-- Options in the order they are to take effect, the last one apart if its value is the next
word. -/
structure Cluster where
  settled : List (Flag × String)
  awaiting : Option Flag
  deriving DecidableEq, Repr

/-- An option alone: it takes effect at once unless it awaits a value. -/
def Cluster.single (flag : Flag) : Cluster :=
  if flag.takesValue then ⟨[], some flag⟩ else ⟨[(flag, "")], none⟩

/-- The cluster with another option to take effect before all others. -/
def Cluster.after (flag : Flag) (cluster : Cluster) : Cluster :=
  { cluster with settled := (flag, "") :: cluster.settled }

/-- The options that share a dash with `flag`, which has `attached` behind it: its value if it takes
one, the letters of more options otherwise. Text that begins with no option's letter counts as a
value of the option in front of it, which takes none. -/
def Cluster.ofShort (flag : Flag) : (attached : List Char) → Except UsageFault Cluster
  | [] => if flag.takesValue then .ok ⟨[(flag, "")], none⟩ else .error (.unwantedValue flag "")
  | letter :: rest =>
    if flag.takesValue then .ok ⟨[(flag, .ofList (letter :: rest))], none⟩
    else
      match Flag.ofLetter? letter with
      | none => .error (.unwantedValue flag (.ofList (letter :: rest)))
      | some next =>
        let others : Except UsageFault Cluster :=
          match rest with
          | [] => .ok (.single next)
          | more => Cluster.ofShort next more
        others.map (.after flag)

/-- The options that one word stands for. -/
def Cluster.ofOption (flag : Flag) (isLong : Bool) : (attached : Option String) →
    Except UsageFault Cluster
  | none => .ok (.single flag)
  | some attached =>
    if isLong then
      if flag.takesValue then .ok ⟨[(flag, attached)], none⟩
      else .error (.unwantedValue flag attached)
    else Cluster.ofShort flag attached.toList

/-- The value that leaves an option blank. -/
def blankValue : String := "--"

/-- The limit that an option's value sets. -/
def limitOf (flag : Flag) (value : String) : Except Interruption Limit :=
  if value = blankValue then .ok .blank
  else
    match Text.readInteger? value with
    | some n => .ok n
    | none => .error (.fault (.notANumber flag value))

/-- The file that an option's value names. -/
def FileName.ofValue (value : String) : FileName :=
  if value = blankValue then .blank else .named value

/-- Lets an option take effect. -/
def Options.set (options : Options) (flag : Flag) (value : String) :
    Except Interruption Options :=
  match flag with
  | .help => .error .help
  | .file => .ok { options with file := some (.ofValue value) }
  | .ascii => .ok { options with ascii := true }
  | .maxVariables =>
    (limitOf flag value).map fun maxVariables => { options with maxVariables }
  | .maxDepth => (limitOf flag value).map fun maxDepth => { options with maxDepth }
  | .validateOnly => .ok { options with validateOnly := true }
  | .verbose => .ok { options with verbose := true }
  | .debug => .ok { options with debug := true }

/-- Lets several options take effect, one after another. -/
def Options.setAll (options : Options) : List (Flag × String) → Except Interruption Options
  | [] => .ok options
  | (flag, value) :: rest =>
    match options.set flag value with
    | .ok next => next.setAll rest
    | .error interruption => .error interruption

/-! ## The whole command line -/

/-- The options so far, and the words left over, last one first. -/
structure Progress where
  options : Options
  leftOver : List String

/-- Takes one more word out of the way. -/
def Progress.leave (progress : Progress) (text : String) : Progress :=
  { progress with leftOver := text :: progress.leftOver }

/-- Takes the words from left to right. -/
def Progress.take (progress : Progress) : List Word → Except Interruption Progress
  | [] => .ok progress
  | .plain text :: .separator :: rest =>
    match progress.options.formula with
    | none => { progress with options.formula := some text }.take rest
    | some _ => ((progress.leave text).leave "--").take rest
  | .plain text :: rest =>
    match progress.options.formula with
    | none => { progress with options.formula := some text }.take rest
    | some _ => (progress.leave text).take rest
  | .separator :: rest =>
    match progress.options.formula with
    | none => progress.take rest
    | some _ => (progress.leave "--").take rest
  | .unknown text :: rest => (progress.leave text).take rest
  | .option flag isLong attached :: rest =>
    match Cluster.ofOption flag isLong attached with
    | .error fault => .error (.fault fault)
    | .ok cluster =>
      match cluster.awaiting, rest with
      | none, rest =>
        match progress.options.setAll cluster.settled with
        | .ok options => { progress with options }.take rest
        | .error interruption => .error interruption
      | some last, .plain value :: rest =>
        match progress.options.setAll (cluster.settled ++ [(last, value)]) with
        | .ok options => { progress with options }.take rest
        | .error interruption => .error interruption
      | some last, _ => .error (.fault (.missingValue last))

/-- What a command line asks for. -/
def Options.ofWords (words : List String) : Except Interruption Options :=
  match Word.classifyAll words with
  | .error fault => .error (.fault fault)
  | .ok words =>
    match Progress.take ⟨.default, []⟩ words with
    | .error interruption => .error interruption
    | .ok progress =>
      if progress.leftOver.isEmpty then .ok progress.options
      else .error (.fault (.unrecognized progress.leftOver.reverse))

end Sentential.CommandLine
