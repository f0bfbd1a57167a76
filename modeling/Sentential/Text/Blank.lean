/-
# Sentential.Text.Blank -- which characters separate words

White space is a property of the character alone, the same one everywhere: between the tokens of
a formula, at the two ends of a formula file, and around a numeral (where a few control
characters drop out, see `Sentential.Text.Integer`). It is wider than the class of core's
`Char.isWhitespace`, and contains it.
-/

namespace Sentential.Text

/-- `c` is white space: the controls from tab to carriage return and from `U+001C` to `U+001F`,
the next-line control, and every Unicode space or line separator. -/
def isBlank (c : Char) : Bool :=
  let n := c.toNat
  (0x09 ≤ n && n ≤ 0x0D) || (0x1C ≤ n && n ≤ 0x20) || n == 0x85 || n == 0xA0 || n == 0x1680 ||
    (0x2000 ≤ n && n ≤ 0x200A) || n == 0x2028 || n == 0x2029 || n == 0x202F || n == 0x205F ||
    n == 0x3000

/-- Core's white space is blank. -/
theorem isBlank_of_isWhitespace {c : Char} (h : c.isWhitespace = true) : isBlank c = true := by
  simp only [Char.isWhitespace, Bool.or_eq_true, decide_eq_true_eq] at h
  rcases h with ((rfl | rfl) | rfl) | rfl <;> rfl

/-- A text without the blanks at its two ends. -/
def trim (s : String) : String :=
  .ofList ((s.toList.dropWhile isBlank).reverse.dropWhile isBlank).reverse

end Sentential.Text
