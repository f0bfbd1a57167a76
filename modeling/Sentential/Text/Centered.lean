/-
# Sentential.Text.Centered -- a text in the middle of a field

A field of a table holds its text with blanks on both sides. The two sides never differ by more
than one blank; when they differ, an odd field has the extra blank on the left and an even field
has it on the right.
-/

namespace Sentential.Text

/-- How many of `pad` blanks stand to the left in a field `width` wide. -/
def leftShare (pad width : Nat) : Nat :=
  pad / 2 + (if pad % 2 = 1 ∧ width % 2 = 1 then 1 else 0)

/-- `text` in a field `width` wide; a text that fills the field is left as it is. -/
def centered (width : Nat) (text : String) : String :=
  let pad := width - text.length
  let left := leftShare pad width
  .ofList (List.replicate left ' ') ++ text ++ .ofList (List.replicate (pad - left) ' ')

theorem leftShare_le (pad width : Nat) : leftShare pad width ≤ pad := by
  unfold leftShare; split <;> omega

/-- A field is as wide as asked for, unless its text is wider. -/
theorem length_centered (width : Nat) (text : String) :
    (centered width text).length = max width text.length := by
  have := leftShare_le (width - text.length) width
  simp [centered]; omega

end Sentential.Text
