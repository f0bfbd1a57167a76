/-
# Sentential.TruthTable.Columns -- where a written table shows what

The columns of a written table stand in the same places in every line, with three characters
between any two of them; the widths alone say where. To read a row back its line is cut at these
places, and what is left of a field without the spaces around it is one mark or the other. The
places do not depend on what stands in the fields, which may look like a separator itself.
-/
import Mathlib.Algebra.GroupWithZero.Nat
import Sentential.TruthTable.Rendering

namespace Sentential

/-! ## Parts of a text -/

namespace Text

/-- What stands between the line breaks of a text. -/
def lines (text : String) : List String := (text.split '\n').toList.map String.Slice.copy

/-- The characters of a text from `start` on, `length` of them. -/
def slice (text : String) (start length : Nat) : String :=
  .ofList ((text.toList.drop start).take length)

/-- `field` is `width` wide and has nothing but spaces around `text`, on one side as many as on the
other or one more. -/
def IsPadded (width : Nat) (text field : String) : Prop :=
  ∃ left right, field = .ofList (List.replicate left ' ') ++ text ++
      .ofList (List.replicate right ' ') ∧
    left + text.length + right = width ∧ left ≤ right + 1 ∧ right ≤ left + 1

/-- The text neither starts nor ends with a space. -/
def IsUnspaced (text : String) : Prop :=
  text.toList.head? ≠ some ' ' ∧ text.toList.getLast? ≠ some ' '

instance (text : String) : Decidable (IsUnspaced text) :=
  inferInstanceAs (Decidable (_ ∧ _))

/-- A text without the spaces at its two ends. -/
def unpadded (field : String) : String :=
  .ofList ((field.toList.dropWhile (· == ' ')).reverse.dropWhile (· == ' ')).reverse

end Text

/-! ## Columns -/

namespace TruthTable

/-- The place where column `j` starts, three characters behind the end of the one before. -/
def columnStart (widths : List Nat) (j : Nat) : Nat := (widths.take j).sum + 3 * j

/-- What stands in column `j` of a line. -/
def field (widths : List Nat) (line : String) (j : Nat) : String :=
  Text.slice line (columnStart widths j) (widths.getD j 0)

/-- The three characters behind column `j` of a line. -/
def gap (widths : List Nat) (line : String) (j : Nat) : String :=
  Text.slice line (columnStart widths j + widths.getD j 0) 3

/-- The line consists of columns of those widths, each of which holds what it should, and of a
separator between any two of them. -/
structure InColumns (widths : List Nat) (separator : String) (Holds : Nat → String → Prop)
    (line : String) : Prop where
  length_eq : line.length = widths.sum + 3 * (widths.length - 1)
  holds : ∀ j < widths.length, Holds j (field widths line j)
  gap_eq : ∀ j, j + 1 < widths.length → gap widths line j = separator

/-- The line shows the cells, each in the middle of its column. -/
def ShowsCells (widths : List Nat) (cells : List String) : String → Prop :=
  InColumns widths " | " fun j field =>
    ∃ width cell, widths[j]? = some width ∧ cells[j]? = some cell ∧ Text.IsPadded width cell field

/-- The line rules every column off. -/
def ShowsRules (widths : List Nat) : String → Prop :=
  InColumns widths "-+-" fun j field =>
    ∃ width, widths[j]? = some width ∧ field = .ofList (List.replicate width '-')

/-- Every row has a value for each column and no further one. -/
def IsRectangular (table : TruthTable) : Prop :=
  ∀ row ∈ table.rows, row.values.length = table.columns.length

namespace Layout

/-- No title and no mark has a line break in it. -/
def OnOneLine (layout : Layout) (table : TruthTable) : Prop :=
  ∀ text ∈ layout.trueMark :: layout.falseMark :: layout.titles table, '\n' ∉ text.toList

/-- The two marks can be told apart, and their ends from the spaces around them. -/
structure Legible (layout : Layout) : Prop where
  differ : layout.trueMark ≠ layout.falseMark
  unspaced : ∀ value, Text.IsUnspaced (layout.mark value)

/-- The value whose mark stands in column `j` of a line. -/
def readValue (layout : Layout) (widths : List Nat) (line : String) (j : Nat) : Bool :=
  Text.unpadded (field widths line j) = layout.trueMark

/-- The row that a line shows under those columns. -/
def readRow (layout : Layout) (columns : List String) (line : String) : Row :=
  let widths := (columns ++ [layout.header]).map layout.width
  ⟨(List.range columns.length).map (layout.readValue widths line),
    layout.readValue widths line columns.length⟩

end Layout

end TruthTable

end Sentential
