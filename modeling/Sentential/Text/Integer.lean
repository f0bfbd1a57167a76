/-
# Sentential.Text.Integer -- whole numbers as people write them

A numeral is decimal: an optional sign, then digits, with single underscores allowed between two
digits and blanks allowed on both sides. Digits of every script count, and scripts may be mixed.
Leading zeros mean nothing. A numeral of more than 4300 digits is refused.
-/
import Sentential.Text.Blank

namespace Sentential.Text

/-- The code points of the zeros, each followed by the other nine digits of its script. -/
def zeros : List Nat :=
  [0x30, 0x660, 0x6F0, 0x7C0, 0x966, 0x9E6, 0xA66, 0xAE6, 0xB66, 0xBE6, 0xC66, 0xCE6, 0xD66, 0xDE6,
   0xE50, 0xED0, 0xF20, 0x1040, 0x1090, 0x17E0, 0x1810, 0x1946, 0x19D0, 0x1A80, 0x1A90, 0x1B50,
   0x1BB0, 0x1C40, 0x1C50, 0xA620, 0xA8D0, 0xA900, 0xA9D0, 0xA9F0, 0xAA50, 0xABF0, 0xFF10, 0x104A0,
   0x10D30, 0x11066, 0x110F0, 0x11136, 0x111D0, 0x112F0, 0x11450, 0x114D0, 0x11650, 0x116C0,
   0x11730, 0x118E0, 0x11950, 0x11C50, 0x11D50, 0x11DA0, 0x16A60, 0x16AC0, 0x16B50, 0x1D7CE,
   0x1D7D8, 0x1D7E2, 0x1D7EC, 0x1D7F6, 0x1E140, 0x1E2F0, 0x1E950, 0x1FBF0]

/-- The value of a decimal digit, in any script. -/
def digitValue? (c : Char) : Option Nat :=
  (zeros.find? fun first => first ≤ c.toNat && c.toNat < first + 10).map (c.toNat - ·)

/-- Core's digits have their usual value. -/
theorem digitValue?_of_isDigit {c : Char} (h : c.isDigit = true) :
    digitValue? c = some (c.toNat - '0'.toNat) := by
  have h : 0x30 ≤ c.toNat ∧ c.toNat ≤ 0x39 := by
    simpa [Char.isDigit, UInt32.le_iff_toNat_le] using h
  have hfirst : (0x30 ≤ c.toNat && c.toNat < 0x30 + 10) = true := by simp; omega
  simp [digitValue?, zeros, List.find?_cons_of_pos, hfirst]

/-- Blanks that may surround a numeral: of the ASCII controls only tab to carriage return. -/
def isMargin (c : Char) : Bool := isBlank c && !(0x1C ≤ c.toNat && c.toNat ≤ 0x1F)

/-- The digits of a numeral without its sign; an underscore has to stand between two digits. -/
def digits? : List Char → Option (List Nat)
  | [] => none
  | [c] => (digitValue? c).map ([·])
  | c :: '_' :: rest => (digitValue? c).bind fun d => (digits? rest).map (d :: ·)
  | c :: rest => (digitValue? c).bind fun d => (digits? rest).map (d :: ·)

/-- The longest numeral that is read or written, in digits. -/
def maxDigits : Nat := 4300

/-- The number that the digits of a numeral spell, most significant first. -/
def magnitude? (cs : List Char) : Option Nat :=
  match digits? cs with
  | some ds => if ds.length ≤ maxDigits then some (ds.foldl (fun n d => 10 * n + d) 0) else none
  | none => none

/-- The number that `s` spells. -/
def readInteger? (s : String) : Option Int :=
  match ((s.toList.dropWhile isMargin).reverse.dropWhile isMargin).reverse with
  | '-' :: cs => (magnitude? cs).map fun n => -(n : Int)
  | '+' :: cs => (magnitude? cs).map Int.ofNat
  | cs => (magnitude? cs).map Int.ofNat

end Sentential.Text
