/-
# Sentential.Token.Scanner -- cutting a text into tokens

The scanner goes through a text from left to right, skips blanks and cuts off one lexeme after
another. It stops at the first character that is neither blank nor the beginning of a lexeme, or
at the end. The three-character spellings of equivalence are the only lexemes that begin with `<`,
and an identifier reaches as far as letters, digits and underscores do.
-/
import Sentential.Text.Blank
import Sentential.Token.Basic

namespace Sentential

/-! ## Lexemes -/

/-- A letter of ASCII, with which an identifier begins. -/
def isNameStart (c : Char) : Bool := c.isAlpha

/-- A letter, digit or underscore of ASCII, with which an identifier goes on. -/
def isNameChar (c : Char) : Bool := c.isAlphanum || c == '_'

/-- The kind and length of the lexeme at the head of a text. -/
def lexeme? : List Char → Option (TokenKind × Nat)
  | '<' :: '-' :: '>' :: _ => some (.connective .iff, 3)
  | '<' :: '=' :: '>' :: _ => some (.connective .iff, 3)
  | '-' :: '>' :: _ => some (.connective .implies, 2)
  | '=' :: '>' :: _ => some (.connective .implies, 2)
  | '~' :: _ => some (.negation, 1)
  | '!' :: _ => some (.negation, 1)
  | '¬' :: _ => some (.negation, 1)
  | '&' :: _ => some (.connective .and, 1)
  | '∧' :: _ => some (.connective .and, 1)
  | '|' :: _ => some (.connective .or, 1)
  | '∨' :: _ => some (.connective .or, 1)
  | '(' :: _ => some (.opening, 1)
  | ')' :: _ => some (.closing, 1)
  | c :: rest =>
    if isNameStart c then some (.identifier, (rest.takeWhile isNameChar).length + 1) else none
  | [] => none

/-! ## The scan -/

/-- The outcome of a scan: the tokens cut off, the place where it stopped, and the character it
could not use there. -/
structure Scan where
  tokens : List Token
  stop : Nat
  illegal : Option Char
  deriving DecidableEq, Repr

/-- Scans on from `position`, where `skip` characters still belong to the token before; `tokens`
are those cut off, last one first. -/
def scanFrom (tokens : List Token) (position skip : Nat) : List Char → Scan
  | [] => ⟨tokens.reverse, position, none⟩
  | c :: rest =>
    match skip with
    | skip + 1 => scanFrom tokens (position + 1) skip rest
    | 0 =>
      if Text.isBlank c then scanFrom tokens (position + 1) 0 rest
      else
        match lexeme? (c :: rest) with
        | some (kind, length) =>
          let token : Token := ⟨kind, .ofList ((c :: rest).take length), position⟩
          scanFrom (token :: tokens) (position + 1) (length - 1) rest
        | none => ⟨tokens.reverse, position, some c⟩

/-- The scan of a whole text. -/
def scan (text : String) : Scan := scanFrom [] 0 0 text.toList

end Sentential
