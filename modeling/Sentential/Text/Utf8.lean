/-
# Sentential.Text.Utf8 -- strict decoding, with the place and cause of a failure

A machine reads one octet at a time. Inside a character it knows how many octets are still owed
and the range that the next one has to lie in; the ranges after `E0`, `ED`, `F0` and `F4` are
narrower, so overlong forms, surrogates and code points above `U+10FFFF` never come about. A
failure covers the octets of the unfinished character: only its first octet if that can start
nothing, otherwise those read before the octet that does not fit or before the end.
-/

namespace Sentential.Text

/-- Why octets are not UTF-8. -/
inductive Utf8Cause where
  /-- The octet starts no character. -/
  | invalidStart
  /-- The character needs another octet than the one that follows. -/
  | invalidContinuation
  /-- The octets end inside a character. -/
  | unexpectedEnd
  deriving DecidableEq, Repr

def Utf8Cause.text : Utf8Cause → String
  | .invalidStart => "invalid start byte"
  | .invalidContinuation => "invalid continuation byte"
  | .unexpectedEnd => "unexpected end of data"

/-- A failure to decode: the offset of the unfinished character's first octet, that octet, the
offset of the last octet covered, and the cause. -/
structure Utf8Fault where
  start : Nat
  octet : UInt8
  last : Nat
  cause : Utf8Cause
  deriving DecidableEq, Repr

/-- One octet is shown with its value, several only with their place. -/
def Utf8Fault.message (fault : Utf8Fault) : String :=
  let place :=
    if fault.start = fault.last then
      "byte 0x" ++ .ofList (hexPair fault.octet.toNat) ++ " in position " ++ toString fault.start
    else "bytes in position " ++ toString fault.start ++ "-" ++ toString fault.last
  "'utf-8' codec can't decode " ++ place ++ ": " ++ fault.cause.text
where
  /-- Two lower-case hexadecimal digits. -/
  hexPair (n : Nat) : List Char := [Nat.digitChar (n / 16), Nat.digitChar (n % 16)]

/-- A character begun and not ended: the offset and value of its first octet, the octets still
owed, the range of the next one, and the code point so far. -/
structure OpenCharacter where
  start : Nat
  octet : UInt8
  owed : Nat
  low : Nat
  high : Nat
  code : Nat
  deriving DecidableEq, Repr

/-- What the first octet of a longer character promises; `none` if it can start nothing. -/
def OpenCharacter.ofFirst? (start : Nat) (octet : UInt8) : Option OpenCharacter :=
  let b := octet.toNat
  if b < 0xC2 then none
  else if b < 0xE0 then some ⟨start, octet, 1, 0x80, 0xBF, b - 0xC0⟩
  else if b < 0xF0 then
    let low := if b = 0xE0 then 0xA0 else 0x80
    let high := if b = 0xED then 0x9F else 0xBF
    some ⟨start, octet, 2, low, high, b - 0xE0⟩
  else if b < 0xF5 then
    let low := if b = 0xF0 then 0x90 else 0x80
    let high := if b = 0xF4 then 0x8F else 0xBF
    some ⟨start, octet, 3, low, high, b - 0xF0⟩
  else none

/-- Reads on at offset `position`, inside `character` if there is one; `text` is what has been
decoded, last character first. -/
def decodeUtf8From (text : List Char) (position : Nat) (character : Option OpenCharacter) :
    List UInt8 → Except Utf8Fault (List Char)
  | [] =>
    match character with
    | none => .ok text.reverse
    | some c => .error ⟨c.start, c.octet, position - 1, .unexpectedEnd⟩
  | octet :: rest =>
    match character with
    | none =>
      if octet.toNat < 0x80 then
        decodeUtf8From (Char.ofNat octet.toNat :: text) (position + 1) none rest
      else
        match OpenCharacter.ofFirst? position octet with
        | some c => decodeUtf8From text (position + 1) (some c) rest
        | none => .error ⟨position, octet, position, .invalidStart⟩
    | some c =>
      if octet.toNat < c.low ∨ c.high < octet.toNat then
        .error ⟨c.start, c.octet, position - 1, .invalidContinuation⟩
      else
        let code := c.code * 64 + (octet.toNat - 0x80)
        if c.owed = 1 then decodeUtf8From (Char.ofNat code :: text) (position + 1) none rest
        else
          decodeUtf8From text (position + 1)
            (some { c with owed := c.owed - 1, low := 0x80, high := 0xBF, code }) rest

/-- The text that `octets` spell. -/
def decodeUtf8 (octets : List UInt8) : Except Utf8Fault (List Char) :=
  decodeUtf8From [] 0 none octets

end Sentential.Text
