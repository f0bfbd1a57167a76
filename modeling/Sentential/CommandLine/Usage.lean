/-
# Sentential.CommandLine.Usage -- help and complaints about the command line

The fixed texts that explain the command line, and the ways in which a command line can be wrong.
A complaint repeats the usage lines and then names the one thing that is wrong.
-/
import Sentential.CommandLine.Flag
import Sentential.Text.Quoted

namespace Sentential.CommandLine

/-- What the program is called. -/
def programName : String := "run_truth_table.py"

/-- The usage lines. -/
def usageLines : List String :=
  ["usage: " ++ programName ++ " [-h] [-f FILE] [--ascii]",
   "                          [--max-variables MAX_VARIABLES]",
   "                          [--max-depth MAX_DEPTH] [--validate-only] [-v]",
   "                          [--debug]",
   "                          [formula]"]

/-- The lines of the help text. -/
def helpLines : List String :=
  usageLines ++
  ["",
   "Truth tables and canonical DNF/CNF for propositional formulas",
   "",
   "positional arguments:",
   "  formula               Formula to evaluate",
   "",
   "options:",
   "  -h, --help            show this help message and exit",
   "  -f FILE, --file FILE  Read the formula from a file instead",
   "  --ascii               Print operators as ASCII (~ & |) instead of logical",
   "                        glyphs",
   "  --max-variables MAX_VARIABLES",
   "                        Largest variable count to enumerate (default: 16)",
   "  --max-depth MAX_DEPTH",
   "                        Largest formula nesting depth (default: 200)",
   "  --validate-only       Only check that the formula is well-formed",
   "  -v, --verbose         Enable verbose output",
   "  --debug               Enable debug output (overrides --verbose)",
   "",
   "Examples:",
   "  python " ++ programName ++ " \"(A & B) -> C\"",
   "  python " ++ programName ++ " \"A <-> ~B\" --ascii",
   "  python " ++ programName ++ " -f formula.txt --debug",
   "  python " ++ programName ++ " \"A | B & C\" --validate-only",
   "",
   "Accepted symbols:",
   "  not: ~ ! ¬    and: & ∧    or: | ∨    implies: -> =>    iff: <-> <=>",
   "        "]

/-- Lines as text, each with its end. -/
def linesText (lines : List String) : String := .join (lines.map (· ++ "\n"))

/-- What is wrong with a command line. -/
inductive UsageFault where
  /-- A shortened option that could be several. -/
  | ambiguous (word : String) (candidates : List Flag)
  /-- An option without the value it takes. -/
  | missingValue (flag : Flag)
  /-- An option with a value that it does not take. -/
  | unwantedValue (flag : Flag) (value : String)
  /-- A value that is not a whole number. -/
  | notANumber (flag : Flag) (value : String)
  /-- Words that nothing asked for. -/
  | unrecognized (words : List String)
  deriving DecidableEq, Repr

namespace UsageFault

/-- A fault of one option. -/
def about (flag : Flag) (complaint : String) : String :=
  "argument " ++ flag.label ++ ": " ++ complaint

/-- A fault in words. -/
def message : UsageFault → String
  | .ambiguous word candidates =>
    "ambiguous option: " ++ word ++ " could match " ++
      String.intercalate ", " (candidates.map Flag.long)
  | .missingValue flag => about flag "expected one argument"
  | .unwantedValue flag value => about flag ("ignored explicit argument " ++ Text.quoted value)
  | .notANumber flag value => about flag ("invalid int value: " ++ Text.quoted value)
  | .unrecognized words => "unrecognized arguments: " ++ String.intercalate " " words

/-- A fault as it is reported: under the usage lines. -/
def report (fault : UsageFault) : String :=
  linesText (usageLines ++ [programName ++ ": error: " ++ fault.message])

end UsageFault

end Sentential.CommandLine
