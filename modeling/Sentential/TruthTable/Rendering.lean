/-
# Sentential.TruthTable.Rendering -- tables in aligned columns

A table is written with a title line, a line of rules and one line per row. Every column is as
wide as the widest of its title and the two marks, the last column holds the results, and every
cell stands in the middle of its column.
-/
import Sentential.Text.Centered
import Sentential.TruthTable.Basic

namespace Sentential.TruthTable

/-- The title of the result column and the two marks for values. -/
structure Layout where
  header : String
  trueMark : String
  falseMark : String
  deriving DecidableEq, Repr

namespace Layout

/-- The letters `T` and `F`, under the given title, or `result` if that is absent or empty. -/
def titled (header : Option String) : Layout :=
  ⟨match header with
    | some title => if title = "" then "result" else title
    | none => "result", "T", "F"⟩

/-- The mark for a value. -/
def mark (layout : Layout) (value : Bool) : String :=
  if value then layout.trueMark else layout.falseMark

/-- The titles of all columns. -/
def titles (layout : Layout) (table : TruthTable) : List String :=
  table.columns ++ [layout.header]

/-- The width of a column with that title. -/
def width (layout : Layout) (title : String) : Nat :=
  max title.length (max layout.trueMark.length layout.falseMark.length)

/-- The widths of all columns. -/
def widths (layout : Layout) (table : TruthTable) : List Nat :=
  (layout.titles table).map layout.width

/-- The cells of a row. -/
def cells (layout : Layout) (row : Row) : List String :=
  row.values.map layout.mark ++ [layout.mark row.result]

end Layout

/-- Cells in columns of those widths, paired as far as both reach. -/
def line (widths : List Nat) (cells : List String) : String :=
  .intercalate " | " (List.zipWith Text.centered widths cells)

/-- The line under the titles. -/
def ruleLine (widths : List Nat) : String :=
  .intercalate "-+-" (widths.map fun width => .ofList (List.replicate width '-'))

/-- The lines of a table. -/
def renderLines (layout : Layout) (table : TruthTable) : List String :=
  let widths := layout.widths table
  line widths (layout.titles table) :: ruleLine widths ::
    table.rows.map fun row => line widths (layout.cells row)

/-- A table as text. -/
def render (layout : Layout) (table : TruthTable) : String :=
  .intercalate "\n" (renderLines layout table)

end Sentential.TruthTable
