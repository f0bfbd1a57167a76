/-
# Sentential.Fault -- everything that can go wrong with a formula

One cause per constructor, with what is known about it. `Fault.message` is the only place where a
cause is put into words, and `Fault.name` the only place where it is named. Faults of a formula's
text and variables are told apart from those that a caller brings about by `Fault.isFormulaFault`.
The numbers in a text are written in full; where there is a bound on their digits, it is asked about
before (`Numeral.check`).
-/
import Sentential.Decimal.PowerOfTwo
import Sentential.Token.Basic

namespace Sentential

/-- Why an operation has no result. -/
inductive Fault where
  /-- A character that no token begins with. -/
  | illegalCharacter (char : Char) (position : Nat)
  /-- A token that no formula can go on with. -/
  | unexpectedToken (token : Token)
  /-- A formula without a token. -/
  | emptyFormula
  /-- The text ends after a token that needs an operand. -/
  | missingOperand (after : String)
  /-- The text ends after an operand, with groups still open. -/
  | unclosedGroups (count : Nat)
  /-- A formula nested deeper than allowed. -/
  | nestedTooDeep (depth : Nat) (limit : Int)
  /-- A text that could not be read for a reason outside the grammar. -/
  | unreadable (reason : String)
  /-- A variable without a value. -/
  | unboundVariable (name : String)
  /-- More variables than a table may have. -/
  | tooManyVariables (count : Nat) (limit : Int)
  /-- A constant was asked for its tree; only the empty disjunction and the empty conjunction are
  constants. -/
  | constantForm (value : Bool)
  /-- A clause without literals was asked for its tree. -/
  | emptyClause
  /-- Something was taken from an empty stack. -/
  | emptyStack
  /-- A text was needed and there is none. -/
  | missingText
  /-- A count was compared with a limit that has no number. -/
  | blankLimit
  /-- A file was to be opened and its name was left blank. -/
  | blankFileName
  /-- A power of two was asked for that has no value, the exponent being too far below zero. -/
  | exponentOutOfRange
  /-- A number was to be written that has more than so many digits. -/
  | numberTooLong (digits : Nat)
  deriving DecidableEq, Repr

namespace Fault

/-- The name that a cause is reported under. -/
def name : Fault → String
  | .illegalCharacter .. => "LexError"
  | .unexpectedToken .. => "UnexpectedTokenError"
  | .emptyFormula => "UnexpectedEndError"
  | .missingOperand .. => "UnexpectedEndError"
  | .unclosedGroups .. => "MissingParenthesisError"
  | .nestedTooDeep .. => "NestingTooDeepError"
  | .unreadable .. => "ParseError"
  | .unboundVariable .. => "UnboundVariableError"
  | .tooManyVariables .. => "TooManyVariablesError"
  | .constantForm .. => "ValueError"
  | .emptyClause => "IndexError"
  | .emptyStack => "IndexError"
  | .missingText => "TypeError"
  | .blankLimit => "TypeError"
  | .blankFileName => "TypeError"
  | .exponentOutOfRange => "OverflowError"
  | .numberTooLong .. => "ValueError"

/-- A cause in words. -/
def message : Fault → String
  | .illegalCharacter char position =>
    "Illegal character '" ++ char.toString ++ "' encountered at position " ++ toString position
  | .unexpectedToken token =>
    "Unexpected token '" ++ token.text ++ "' (type: " ++ token.kind.name ++ ") at position " ++
      toString token.index
  | .emptyFormula => "Input formula is empty."
  | .missingOperand after =>
    "Unexpected end of input: expected an operand after '" ++ after ++ "'"
  | .unclosedGroups count =>
    "Missing closing parenthesis: " ++ toString count ++ " unclosed '(' at end of input"
  | .nestedTooDeep depth limit =>
    "Formula nesting depth " ++ toString depth ++ " exceeds the maximum of " ++ toString limit
  | .unreadable reason => reason
  | .unboundVariable name => "Variable '" ++ name ++ "' has no value in the assignment"
  | .tooManyVariables count limit =>
    "Formula has " ++ toString count ++ " variables; truth tables are limited to " ++
      toString limit ++ " variables (" ++ Decimal.powerOfTwo limit ++ " rows)"
  | .constantForm true => "CNF is the constant True"
  | .constantForm false => "DNF is the constant False"
  | .emptyClause => "tuple index out of range"
  | .emptyStack => "pop from empty list"
  | .missingText => "'NoneType' object is not subscriptable"
  | .blankLimit => "'>' not supported between instances of 'int' and 'list'"
  | .blankFileName => "expected str, bytes or os.PathLike object, not list"
  | .exponentOutOfRange => "int too large to convert to float"
  | .numberTooLong digits =>
    "Exceeds the limit (" ++ toString digits ++ " digits) for integer string conversion; " ++
      "use sys.set_int_max_str_digits() to increase the limit"

/-- A cause that lies in the text of a formula or in its variables; the others come from the way
an operation was asked for. -/
def isFormulaFault : Fault → Bool
  | .constantForm .. => false
  | .emptyClause => false
  | .emptyStack => false
  | .missingText => false
  | .blankLimit => false
  | .blankFileName => false
  | .exponentOutOfRange => false
  | .numberTooLong .. => false
  | _ => true

end Fault

end Sentential
