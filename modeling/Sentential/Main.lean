/-
# Sentential.Main -- the program

Runs the command line on real files and real output. Everything it decides is decided in
`Sentential.CommandLine.Run`; here files are read and texts are written.
-/
import Sentential.CommandLine.Run

namespace Sentential.CommandLine

/-- A refusal by its number, which comes with either sign. -/
def FileState.ofNumber (number : UInt32) (words : String) : FileState :=
  .refused (.ofNumber number.toInt32.toInt.natAbs words)

/-- What a failure to read a file means for a formula file. -/
def FileState.ofError : IO.Error → FileState
  | .inappropriateType _ number words => .ofNumber number words
  | .invalidArgument _ number words => .ofNumber number words
  | .permissionDenied _ number words => .ofNumber number words
  | .resourceExhausted _ number words => .ofNumber number words
  | .otherError number words => .ofNumber number words
  | _ => .missing

/-- What is found at a path of the file system. -/
def findFile (path : Path) : IO FileState := do
  if path.text.toList.contains '\x00' then return .unnamable
  try
    let content ← IO.FS.readBinFile path.text
    return .octets content.toList
  catch failure => return .ofError failure

/-- What the options need from the file system, looked up beforehand. -/
def findFor (words : List String) : IO FileState :=
  match Options.ofWords words with
  | .ok options =>
    match options.file with
    | some (.named file) => findFile (.ofText file)
    | _ => return .missing
  | .error _ => return .missing

end Sentential.CommandLine

def main (words : List String) : IO UInt32 := do
  let found ← Sentential.CommandLine.findFor words
  let report := Sentential.CommandLine.execute words fun _ => found
  IO.print report.output
  IO.eprint report.complaint
  return report.exitCode.toUInt32
