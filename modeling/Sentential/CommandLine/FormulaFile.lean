/-
# Sentential.CommandLine.FormulaFile -- formulas kept in files

A formula file holds one formula in UTF-8, with any line ends and any blanks around it. It can be
absent, be something other than a file, hold octets that are not UTF-8, or hold no formula at all;
each of these has its own text.
-/
import Sentential.CommandLine.Path
import Sentential.Text.Blank
import Sentential.Text.Quoted
import Sentential.Text.Utf8

namespace Sentential.CommandLine

/-- Why the system does not open a file that it was asked for: its number for the reason, and its
words. -/
structure Refusal where
  number : Nat
  words : String
  deriving DecidableEq, Repr

namespace Refusal

/-- A directory holds no text. -/
def isDirectory : Refusal := ⟨21, "Is a directory"⟩

/-- A path leads through something that is no directory. -/
def notDirectory : Refusal := ⟨20, "Not a directory"⟩

/-- A path is longer than any path can be. -/
def nameTooLong : Refusal := ⟨36, "File name too long"⟩

/-- A file is not for everyone to read. -/
def notPermitted : Refusal := ⟨13, "Permission denied"⟩

/-- The refusal of that number, in `words` if it is none of the above. -/
def ofNumber (number : Nat) (words : String) : Refusal :=
  ([isDirectory, notDirectory, nameTooLong, notPermitted].find? (·.number = number)).getD
    ⟨number, words⟩

end Refusal

/-- What is found at a path. -/
inductive FileState where
  | missing
  | refused (refusal : Refusal)
  /-- The path holds a null character, so that it names nothing. -/
  | unnamable
  | octets (content : List UInt8)
  deriving DecidableEq, Repr

/-- Why there is no formula in a file. -/
inductive FileFault where
  | notFound (path : Path)
  | refused (refusal : Refusal) (path : Path)
  | unnamable
  | undecodable (fault : Text.Utf8Fault)
  | empty
  deriving DecidableEq, Repr

/-- A fault in words. -/
def FileFault.message : FileFault → String
  | .notFound path => "Formula file not found: " ++ path.text
  | .refused refusal path =>
    "Error reading formula file: [Errno " ++ toString refusal.number ++ "] " ++ refusal.words ++
      ": " ++ Text.quoted path.text
  | .unnamable => "embedded null byte"
  | .undecodable fault => fault.message
  | .empty => "Formula file is empty"

/-- Every line end is a line feed: a carriage return counts as one, alone or before a line
feed. -/
def plainLineEnds : List Char → List Char
  | [] => []
  | '\r' :: '\n' :: rest => '\n' :: plainLineEnds rest
  | c :: rest => (if c = '\r' then '\n' else c) :: plainLineEnds rest

/-- The formula in a file. -/
def formulaIn (path : Path) : FileState → Except FileFault String
  | .missing => .error (.notFound path)
  | .refused refusal => .error (.refused refusal path)
  | .unnamable => .error .unnamable
  | .octets content =>
    match Text.decodeUtf8 content with
    | .error fault => .error (.undecodable fault)
    | .ok text =>
      let formula := Text.trim (.ofList (plainLineEnds text))
      if formula = "" then .error .empty else .ok formula

end Sentential.CommandLine
