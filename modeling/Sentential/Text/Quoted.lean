/-
# Sentential.Text.Quoted -- a text between quotes, on one line

Log records and error texts show a formula or a path between quotes, with everything that would
break the line or stay invisible written as an escape. The quote is `'`, unless the text holds
`'` and no `"`; then it is `"` and nothing of the text has to be escaped for its sake.
-/
import Sentential.Text.Unprintable

namespace Sentential.Text

/-- `n` in lower-case hexadecimal, with zeros in front up to `width` digits. -/
def hexadecimal (width n : Nat) : String :=
  let digits := Nat.toDigits 16 n
  .ofList (List.replicate (width - digits.length) '0' ++ digits)

/-- One character as it stands between `quote`s. -/
def escaped (quote c : Char) : String :=
  if c = quote ∨ c = '\\' then .ofList ['\\', c]
  else if c = '\n' then "\\n"
  else if c = '\r' then "\\r"
  else if c = '\t' then "\\t"
  else if isPrintable c then .ofList [c]
  else if c.toNat ≤ 0xFF then "\\x" ++ hexadecimal 2 c.toNat
  else if c.toNat ≤ 0xFFFF then "\\u" ++ hexadecimal 4 c.toNat
  else "\\U" ++ hexadecimal 8 c.toNat

/-- The quote that a text is put between. -/
def quoteFor (s : List Char) : Char :=
  if s.contains '\'' && !s.contains '"' then '"' else '\''

/-- `s` between quotes. -/
def quoted (s : String) : String :=
  let quote := quoteFor s.toList
  (s.toList.foldl (fun text c => text ++ escaped quote c) (.ofList [quote])).push quote

/-- A list of texts, each between quotes, in brackets. -/
def quotedList (items : List String) : String :=
  "[" ++ String.intercalate ", " (items.map quoted) ++ "]"

end Sentential.Text
