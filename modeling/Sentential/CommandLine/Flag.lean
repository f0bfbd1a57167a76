/-
# Sentential.CommandLine.Flag -- the options of the command line

The options that the program knows, with their spellings, in the order in which help lists them.
Some take a value, which is either attached to the option or is the next word.
-/

namespace Sentential.CommandLine

/-- An option. -/
inductive Flag where
  | help
  | file
  | ascii
  | maxVariables
  | maxDepth
  | validateOnly
  | verbose
  | debug
  deriving DecidableEq, Repr

namespace Flag

/-- All options, in listing order. -/
def all : List Flag :=
  [.help, .file, .ascii, .maxVariables, .maxDepth, .validateOnly, .verbose, .debug]

/-- The letter of an option's short spelling. -/
def letter? : Flag → Option Char
  | .help => some 'h'
  | .file => some 'f'
  | .verbose => some 'v'
  | _ => none

/-- An option's long spelling. -/
def long : Flag → String
  | .help => "--help"
  | .file => "--file"
  | .ascii => "--ascii"
  | .maxVariables => "--max-variables"
  | .maxDepth => "--max-depth"
  | .validateOnly => "--validate-only"
  | .verbose => "--verbose"
  | .debug => "--debug"

/-- An option's spellings, the short one first. -/
def spellings (flag : Flag) : List String :=
  match flag.letter? with
  | some letter => [.ofList ['-', letter], flag.long]
  | none => [flag.long]

/-- An option in error texts: all of its spellings. -/
def label (flag : Flag) : String := .intercalate "/" flag.spellings

/-- The option takes a value. -/
def takesValue : Flag → Bool
  | .file => true
  | .maxVariables => true
  | .maxDepth => true
  | _ => false

/-- The option with that letter. -/
def ofLetter? (letter : Char) : Option Flag := all.find? fun flag => flag.letter? == some letter

/-- The option with that spelling. -/
def ofSpelling? (word : String) : Option Flag := all.find? fun flag => flag.spellings.contains word

/-- The options whose long spelling begins with `start`. -/
def completions (start : String) : List Flag :=
  all.filter fun flag => start.toList.isPrefixOf flag.long.toList

end Flag

end Sentential.CommandLine
