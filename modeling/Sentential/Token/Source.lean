/-
# Sentential.Token.Source -- texts that may be absent, and their tokens

The text of a formula may be absent. An absent text can be shown in a record, but it has no
tokens. A text has tokens only if it can be scanned to its end; one illegal character anywhere in
it is reported, and the tokens before it are not.
-/
import Sentential.Journal.Script
import Sentential.Text.Quoted
import Sentential.Token.Scanner

namespace Sentential

/-! ## Texts that may be absent -/

/-- The text of a formula, if there is one. -/
abbrev Source := Option String

namespace Source

/-- What stands for an absent text. -/
def absent : String := "None"

/-- A text in a record. -/
def shown (source : Source) : String := source.getD absent

/-- A text in a record, between quotes. -/
def quoted (source : Source) : String := (source.map Text.quoted).getD absent

end Source

/-! ## Tokens -/

/-- The tokens of a text that can be scanned to its end. -/
def tokenize (source : Source) : Script (List Token) :=
  match source with
  | none => .fail .missingText
  | some text =>
    let result := scan text
    match result.illegal with
    | none => do
      .detail ("Scanned " ++ toString result.tokens.length ++ " tokens from: " ++ source.quoted)
      return result.tokens
    | some char => do
      .detail ("Illegal character '" ++ char.toString ++ "' at position " ++ toString result.stop)
      .fail (.illegalCharacter char result.stop)

end Sentential
