/-
# Sentential.CommandLine.Word -- what each word of a command line is

A word is an option, a plain word or the separator `--`, after which every word is plain. Which of
these it is shows from the word alone. A long option may be shortened as long as it stays the only
one that begins so; a value may be attached to a long option by an equals sign and to a short one
also directly. A word that begins with a dash and is no option is plain if it is a single dash, a
negative number or contains a space, and otherwise an option that the program does not know.
-/
import Sentential.CommandLine.Usage
import Sentential.Text.Integer

namespace Sentential.CommandLine

/-- What a word of the command line is. -/
inductive Word where
  /-- A word that is no option. -/
  | plain (text : String)
  /-- An option, whether it is spelled with two dashes, and what is attached to it. -/
  | option (flag : Flag) (isLong : Bool) (attached : Option String)
  /-- A word that looks like an option and is none. -/
  | unknown (text : String)
  /-- The end of the options. -/
  | separator
  deriving DecidableEq, Repr

/-- A decimal digit of any script. -/
def isDigit (c : Char) : Bool := (Text.digitValue? c).isSome

/-- `-5`, `-5.5` and `-.5` are numbers and no options; a line feed behind them makes no
difference. -/
def isNegativeNumber : List Char → Bool
  | '-' :: rest =>
    let rest := if rest.getLast? = some '\n' then rest.dropLast else rest
    match rest.span isDigit with
    | (whole, []) => !whole.isEmpty
    | (_, '.' :: fraction) => !fraction.isEmpty && fraction.all isDigit
    | _ => false
  | _ => false

/-- A word at its first equals sign, if it has one. -/
def splitAtEquals (cs : List Char) : String × Option String :=
  match cs.span (· != '=') with
  | (name, '=' :: value) => (.ofList name, some (.ofList value))
  | (name, _) => (.ofList name, none)

namespace Word

/-- A word that begins with a dash and is no spelling of an option. -/
def ofDashed (text : String) : Word :=
  let cs := text.toList
  if isNegativeNumber cs || cs.contains ' ' then .plain text else .unknown text

/-- What a word before the separator is, other than the separator itself. -/
def classify (text : String) : Except UsageFault Word :=
  match text.toList with
  | '-' :: second :: rest =>
    match Flag.ofSpelling? text with
    | some flag => .ok (.option flag (second == '-') none)
    | none =>
      let (name, value) := splitAtEquals ('-' :: second :: rest)
      match value.bind fun _ => Flag.ofSpelling? name with
      | some flag => .ok (.option flag (second == '-') value)
      | none =>
        if second = '-' then
          match Flag.completions name with
          | [] => .ok (ofDashed text)
          | [flag] => .ok (.option flag true value)
          | several => .error (.ambiguous text several)
        else
          match Flag.ofLetter? second with
          | some flag => .ok (.option flag false (some (.ofList rest)))
          | none => .ok (ofDashed text)
  | _ => .ok (.plain text)

/-- What the words of a command line are. -/
def classifyAll : List String → Except UsageFault (List Word)
  | [] => .ok []
  | "--" :: rest => .ok (.separator :: rest.map .plain)
  | text :: rest =>
    match classify text with
    | .ok word => (classifyAll rest).map (word :: ·)
    | .error fault => .error fault

end Word

end Sentential.CommandLine
