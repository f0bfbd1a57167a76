/-
# Sentential.Proofs.TruthTable.Alignment -- written tables are aligned and can be read back

Every line of a table is made of fields that are as wide as their columns, put together with a
separator of three characters. Where a field starts follows from the widths of those before it, so
cutting a line there yields its fields, whatever is in them. A field with a mark in it is the mark
with spaces around, and taking the spaces away leaves the mark if it has none at its own ends. Thus
the lines tell the rows, and as nothing in them is a line break, so does the whole text.
-/
import Mathlib.Data.List.Forall2
import Mathlib.Data.List.TakeWhile
import Sentential.TruthTable.Columns

namespace Sentential

/-! ## Padded texts -/

namespace Text

/-- The share of the left side is half of the blanks, or half a blank off. -/
theorem leftShare_half (pad width : Nat) :
    pad ≤ 2 * leftShare pad width + 1 ∧ 2 * leftShare pad width ≤ pad + 1 := by
  unfold leftShare
  split <;> omega

theorem isPadded_centered {width : Nat} {text : String} (h : text.length ≤ width) :
    IsPadded width text (centered width text) := by
  have hshare := leftShare_le (width - text.length) width
  have hhalf := leftShare_half (width - text.length) width
  refine ⟨_, _, rfl, ?_, ?_, ?_⟩
  all_goals omega

theorem IsPadded.length_eq {width : Nat} {text field : String} (h : IsPadded width text field) :
    field.length = width := by
  obtain ⟨left, right, rfl, hwidth, -, -⟩ := h
  simpa using hwidth

/-- The text in a padded field is what is left of it without the spaces. -/
theorem IsPadded.unpadded_eq {width : Nat} {text field : String} (h : IsPadded width text field)
    (htext : IsUnspaced text) : unpadded field = text := by
  obtain ⟨left, right, rfl, -, -, -⟩ := h
  have hspaces : ∀ n, ∀ c ∈ List.replicate n ' ', (c == ' ') = true := by
    intro n c hc
    rw [List.eq_of_mem_replicate hc]
    rfl
  rw [unpadded, ← String.toList_inj, String.toList_ofList, String.toList_append,
    String.toList_append, String.toList_ofList, String.toList_ofList, List.append_assoc,
    List.dropWhile_append_of_pos (hspaces left)]
  by_cases hempty : text.toList = []
  · -- there is no end of the text to stop at
    rw [hempty, List.nil_append, List.dropWhile_eq_nil_iff.mpr (hspaces right)]
    rfl
  · have hfirst : (text.toList ++ List.replicate right ' ').head? ≠ some ' ' := by
      rw [List.head?_append_of_ne_nil _ hempty]
      exact htext.1
    have hlast : text.toList.reverse.head? ≠ some ' ' := by
      rw [List.head?_reverse]
      exact htext.2
    rw [List.dropWhile_beq_eq_self_of_head?_ne hfirst, List.reverse_append,
      List.reverse_replicate, List.dropWhile_append_of_pos (hspaces right),
      List.dropWhile_beq_eq_self_of_head?_ne hlast, List.reverse_reverse]

/-- Texts without line breaks are the lines of the text that they make with line breaks between. -/
theorem lines_intercalate {texts : List String} (hne : texts ≠ [])
    (h : ∀ text ∈ texts, '\n' ∉ text.toList) : lines (String.intercalate "\n" texts) = texts := by
  have hsplit := String.toList_split_intercalate h
  rw [if_neg hne] at hsplit
  exact hsplit

end Text

/-! ## Fields in their columns -/

namespace TruthTable

variable {separator : String}

theorem length_intercalate (hseparator : separator.length = 3) (fields : List String) :
    (String.intercalate separator fields).length =
      (fields.map String.length).sum + 3 * (fields.length - 1) := by
  induction fields with
  | nil => rfl
  | cons first rest ih =>
      cases rest with
      | nil => simp
      | cons second rest =>
          rw [String.intercalate_cons_cons, String.length_append, String.length_append, ih,
            hseparator]
          simp only [List.map_cons, List.sum_cons, List.length_cons]
          omega

/-- Behind the place where a column starts comes what is made of the fields from there on. -/
theorem drop_columnStart (hseparator : separator.length = 3) {fields : List String} {j : Nat}
    (hj : j < fields.length) :
    (String.intercalate separator fields).toList.drop (columnStart (fields.map String.length) j) =
      (String.intercalate separator (fields.drop j)).toList := by
  induction fields generalizing j with
  | nil => exact absurd hj (by simp)
  | cons first rest ih =>
      cases j with
      | zero => rfl
      | succ j =>
          have hrest : j < rest.length := Nat.lt_of_succ_lt_succ hj
          have hne : rest ≠ [] := List.ne_nil_of_length_pos (by omega)
          have hstart : columnStart ((first :: rest).map String.length) (j + 1) =
              (first ++ separator).toList.length + columnStart (rest.map String.length) j := by
            simp only [columnStart, List.map_cons, List.take_succ_cons, List.sum_cons,
              String.length_toList, String.length_append, hseparator]
            omega
          rw [String.intercalate_cons_of_ne_nil hne, String.toList_append, hstart,
            List.drop_length_add_append, List.drop_succ_cons, ih hrest]

/-- At the start of a column stands its field, and behind that the separator unless the column is
the last. -/
theorem exists_behind (hseparator : separator.length = 3) {fields : List String} {j : Nat}
    (hj : j < fields.length) :
    ∃ behind, (String.intercalate separator fields).toList.drop
        (columnStart (fields.map String.length) j) = fields[j].toList ++ behind ∧
      (j + 1 < fields.length → separator.toList <+: behind) := by
  rw [drop_columnStart hseparator hj, List.drop_eq_getElem_cons hj]
  by_cases hlast : j + 1 < fields.length
  · have hne : fields.drop (j + 1) ≠ [] := by simpa using hlast
    refine ⟨separator.toList ++ (String.intercalate separator (fields.drop (j + 1))).toList, ?_,
      fun _ => List.prefix_append ..⟩
    rw [String.intercalate_cons_of_ne_nil hne, String.toList_append, String.toList_append,
      List.append_assoc]
  · refine ⟨[], ?_, fun h => absurd h hlast⟩
    rw [List.drop_eq_nil_of_le (Nat.le_of_not_lt hlast), String.intercalate_singleton,
      List.append_nil]

/-- A line made of fields as wide as the columns has each of them in its column. -/
theorem inColumns_intercalate (hseparator : separator.length = 3) {widths : List Nat}
    {fields : List String} (hwidths : fields.map String.length = widths) :
    InColumns widths separator (fun j field => fields[j]? = some field)
      (String.intercalate separator fields) := by
  subst hwidths
  have hwidth : ∀ j (hj : j < fields.length),
      (fields.map String.length).getD j 0 = fields[j].toList.length := by
    intro j hj
    rw [String.length_toList]
    simp [hj]
  refine ⟨?_, ?_, ?_⟩
  · rw [length_intercalate hseparator, List.length_map]
  · intro j hj
    rw [List.length_map] at hj
    obtain ⟨behind, hdrop, -⟩ := exists_behind hseparator hj
    rw [field, Text.slice, hdrop, hwidth j hj, List.take_left, String.ofList_toList,
      List.getElem?_eq_getElem hj]
  · intro j hj
    rw [List.length_map] at hj
    obtain ⟨behind, hdrop, hbehind⟩ := exists_behind hseparator (Nat.lt_of_succ_lt hj)
    obtain ⟨further, rfl⟩ := hbehind hj
    rw [gap, Text.slice, ← List.drop_drop, hdrop, hwidth j (Nat.lt_of_succ_lt hj), List.drop_left,
      List.take_left' (by rw [String.length_toList, hseparator]), String.ofList_toList]

/-- What holds in the columns may be weakened. -/
theorem InColumns.imp {widths : List Nat} {Holds Holds' : Nat → String → Prop} {shown : String}
    (h : InColumns widths separator Holds shown)
    (himp : ∀ j field, Holds j field → Holds' j field) : InColumns widths separator Holds' shown :=
  ⟨h.length_eq, fun j hj => himp j _ (h.holds j hj), h.gap_eq⟩

/-! ## The lines of a table -/

/-- Cells that are as many as the columns and no wider stand in them. -/
theorem showsCells_line {widths : List Nat} {cells : List String}
    (hlength : cells.length = widths.length)
    (hfit : ∀ (j width : Nat) (cell : String), widths[j]? = some width → cells[j]? = some cell →
      cell.length ≤ width) : ShowsCells widths cells (line widths cells) := by
  have hpadded : ∀ (j width : Nat) (cell : String), widths[j]? = some width →
      cells[j]? = some cell → Text.IsPadded width cell (Text.centered width cell) := by
    intro j width cell hwidth hcell
    exact Text.isPadded_centered (hfit j width cell hwidth hcell)
  have hlengths : (List.zipWith Text.centered widths cells).map String.length = widths := by
    apply List.ext_getElem
    · simp [hlength]
    · intro j hj hj'
      have hcell : j < cells.length := by omega
      rw [List.getElem_map, List.getElem_zipWith]
      exact (hpadded j _ _ (List.getElem?_eq_getElem hj')
        (List.getElem?_eq_getElem hcell)).length_eq
  apply (inColumns_intercalate rfl hlengths).imp
  intro j field hfield
  obtain ⟨width, cell, hwidth, hcell, rfl⟩ := List.getElem?_zipWith_eq_some.mp hfield
  exact ⟨width, cell, hwidth, hcell, hpadded j width cell hwidth hcell⟩

/-- Rules as long as the columns are wide stand in them. -/
theorem showsRules_ruleLine (widths : List Nat) : ShowsRules widths (ruleLine widths) := by
  have hlengths : (widths.map fun width => String.ofList (List.replicate width '-')).map
      String.length = widths := by
    rw [List.map_map]
    exact List.map_id'' (fun width => by simp) widths
  apply (inColumns_intercalate rfl hlengths).imp
  intro j field hfield
  rw [List.getElem?_map, Option.map_eq_some_iff] at hfield
  obtain ⟨width, hwidth, hfield⟩ := hfield
  exact ⟨width, hwidth, hfield.symm⟩

namespace Layout

variable {layout : Layout} {table : TruthTable}

theorem length_widths (layout : Layout) (table : TruthTable) :
    (layout.widths table).length = table.columns.length + 1 := by
  simp [widths, titles]

theorem length_mark_le (layout : Layout) (value : Bool) (title : String) :
    (layout.mark value).length ≤ layout.width title := by
  unfold mark width
  split <;> omega

theorem length_cells {row : Row} (h : row.values.length = table.columns.length) :
    (layout.cells row).length = (layout.widths table).length := by
  rw [length_widths]
  simp [cells, h]

/-- The titles stand in their columns. -/
theorem showsCells_titles (layout : Layout) (table : TruthTable) :
    ShowsCells (layout.widths table) (layout.titles table)
      (line (layout.widths table) (layout.titles table)) := by
  refine showsCells_line (by simp [widths]) ?_
  intro j width title hwidth htitle
  rw [widths, List.getElem?_map, htitle, Option.map_some] at hwidth
  obtain rfl := Option.some.inj hwidth
  exact Nat.le_max_left ..

theorem mem_cells {row : Row} {cell : String} (h : cell ∈ layout.cells row) :
    ∃ value, layout.mark value = cell := by
  rcases List.mem_append.mp h with h | h
  · obtain ⟨value, -, rfl⟩ := List.mem_map.mp h
    exact ⟨value, rfl⟩
  · exact ⟨row.result, (List.mem_singleton.mp h).symm⟩

/-- The marks of a row stand in its columns. -/
theorem showsCells_row {row : Row} (h : row.values.length = table.columns.length) :
    ShowsCells (layout.widths table) (layout.cells row)
      (line (layout.widths table) (layout.cells row)) := by
  refine showsCells_line (length_cells h) ?_
  intro j width cell hwidth hcell
  obtain ⟨title, -, rfl⟩ := List.mem_map.mp (List.mem_of_getElem? hwidth)
  obtain ⟨value, rfl⟩ := mem_cells (List.mem_of_getElem? hcell)
  exact layout.length_mark_le value title

/-! ## Reading back -/

theorem Legible.mark_eq_trueMark_iff (h : layout.Legible) {value : Bool} :
    layout.mark value = layout.trueMark ↔ value = true := by
  cases value with
  | true => exact ⟨fun _ => rfl, fun _ => rfl⟩
  | false => exact ⟨fun heq => absurd heq.symm h.differ, fun heq => absurd heq (by decide)⟩

/-- A line that shows the marks of a row is read as this row. -/
theorem Legible.readRow_eq (h : layout.Legible) {row : Row} {shown : String}
    (hlength : row.values.length = table.columns.length)
    (hshown : ShowsCells (layout.widths table) (layout.cells row) shown) :
    layout.readRow table.columns shown = row := by
  -- the mark in a column is what is left of its field
  have hread : ∀ j value, (layout.cells row)[j]? = some (layout.mark value) →
      layout.readValue (layout.widths table) shown j = value := by
    intro j value hmark
    have hj : j < (layout.widths table).length := by
      rw [← length_cells hlength]
      exact (List.getElem?_eq_some_iff.mp hmark).1
    obtain ⟨width, cell, -, hcell, hpadded⟩ := hshown.holds j hj
    obtain rfl : cell = layout.mark value := Option.some.inj (hcell.symm.trans hmark)
    rw [readValue, hpadded.unpadded_eq (h.unspaced value)]
    simp [h.mark_eq_trueMark_iff]
  have hvalues : (List.range table.columns.length).map
      (layout.readValue (layout.widths table) shown) = row.values := by
    apply List.ext_getElem
    · simp [hlength]
    · intro j hj hj'
      rw [List.getElem_map, List.getElem_range]
      apply hread
      rw [cells, List.getElem?_append_left (by simpa using hj'), List.getElem?_map,
        List.getElem?_eq_getElem hj', Option.map_some]
  have hresult := hread table.columns.length row.result (by simp [cells, ← hlength])
  show Row.mk ((List.range table.columns.length).map
    (layout.readValue (layout.widths table) shown)) _ = row
  rw [hvalues]
  exact congrArg _ hresult

end Layout

/-! ## The whole text -/

theorem not_mem_intercalate {c : Char} {texts : List String} (hseparator : c ∉ separator.toList)
    (h : ∀ text ∈ texts, c ∉ text.toList) : c ∉ (String.intercalate separator texts).toList := by
  induction texts with
  | nil => simp
  | cons first rest ih =>
      have hfirst := h first (List.mem_cons_self ..)
      have hrest := ih fun text htext => h text (List.mem_cons_of_mem first htext)
      by_cases hnil : rest = []
      · rwa [hnil, String.intercalate_singleton]
      · rw [String.intercalate_cons_of_ne_nil hnil, String.toList_append, String.toList_append]
        simp only [List.mem_append, not_or]
        exact ⟨⟨hfirst, hseparator⟩, hrest⟩

theorem not_mem_line {widths : List Nat} {cells : List String}
    (h : ∀ cell ∈ cells, '\n' ∉ cell.toList) : '\n' ∉ (line widths cells).toList := by
  apply not_mem_intercalate (by decide)
  intro text htext
  obtain ⟨j, hj⟩ := List.getElem?_of_mem htext
  obtain ⟨width, cell, -, hcell, rfl⟩ := List.getElem?_zipWith_eq_some.mp hj
  have hcell := h cell (List.mem_of_getElem? hcell)
  simp [Text.centered, hcell]

theorem not_mem_ruleLine (widths : List Nat) : '\n' ∉ (ruleLine widths).toList := by
  apply not_mem_intercalate (by decide)
  intro text htext
  obtain ⟨width, -, rfl⟩ := List.mem_map.mp htext
  simp

variable {layout : Layout} {table : TruthTable}

/-- The text of a table has the lines that were put into it. -/
theorem lines_render (h : layout.OnOneLine table) :
    Text.lines (render layout table) = renderLines layout table := by
  have hmark : ∀ value, '\n' ∉ (layout.mark value).toList := by
    intro value
    unfold Layout.mark
    split
    · exact h _ (by simp)
    · exact h _ (by simp)
  apply Text.lines_intercalate (by simp [renderLines])
  intro text htext
  rcases List.mem_cons.mp htext with rfl | htext
  · exact not_mem_line fun title htitle =>
      h title (List.mem_cons_of_mem _ (List.mem_cons_of_mem _ htitle))
  · rcases List.mem_cons.mp htext with rfl | htext
    · exact not_mem_ruleLine _
    · obtain ⟨row, -, rfl⟩ := List.mem_map.mp htext
      apply not_mem_line
      intro cell hcell
      obtain ⟨value, rfl⟩ := Layout.mem_cells hcell
      exact hmark value

/-- The lines under the rules are read as the rows. -/
theorem map_readRow (h : layout.Legible) (hrectangular : table.IsRectangular) :
    (table.rows.map fun row => line (layout.widths table) (layout.cells row)).map
      (layout.readRow table.columns) = table.rows := by
  have hread : ∀ row ∈ table.rows, layout.readRow table.columns
      (line (layout.widths table) (layout.cells row)) = row := by
    intro row hrow
    have hlength := hrectangular row hrow
    exact h.readRow_eq hlength (Layout.showsCells_row hlength)
  rw [List.map_map]
  exact (List.map_congr_left hread).trans (List.map_id table.rows)

/-- A table with a value for each column in every row, and no line breaks in titles and marks, has
two lines more than rows, all of the same length. The first shows the titles and the second rules
the columns off; in the others the marks of the rows stand, in the same columns. If the marks can be
told apart and have no spaces at their ends, each of these lines is read as its row, and another
table of that kind over the same columns has the same text only if it has the same rows. -/
theorem rendering_is_aligned_and_legible (hrectangular : table.IsRectangular)
    (hlines : layout.OnOneLine table) :
    (∃ titleLine rules rowLines,
      Text.lines (render layout table) = titleLine :: rules :: rowLines ∧
      rowLines.length = table.rows.length ∧
      (∀ shown ∈ titleLine :: rules :: rowLines,
        shown.length = (layout.widths table).sum + 3 * table.columns.length) ∧
      ShowsCells (layout.widths table) (layout.titles table) titleLine ∧
      ShowsRules (layout.widths table) rules ∧
      List.Forall₂ (fun row => ShowsCells (layout.widths table) (layout.cells row)) table.rows
        rowLines ∧
      (layout.Legible → rowLines.map (layout.readRow table.columns) = table.rows)) ∧
    (layout.Legible → ∀ other : TruthTable, other.IsRectangular → other.columns = table.columns →
      render layout other = render layout table → other.rows = table.rows) := by
  have hcells : ∀ row ∈ table.rows, ShowsCells (layout.widths table) (layout.cells row)
      (line (layout.widths table) (layout.cells row)) :=
    fun row hrow => Layout.showsCells_row (hrectangular row hrow)
  have htitles := layout.showsCells_titles table
  have hrules := showsRules_ruleLine (layout.widths table)
  refine ⟨⟨_, _, _, lines_render hlines, List.length_map .., ?_, htitles, hrules, ?_, ?_⟩, ?_⟩
  · have hwidths : (layout.widths table).length - 1 = table.columns.length := by
      rw [Layout.length_widths, Nat.add_sub_cancel]
    intro shown hshown
    rw [← hwidths]
    rcases List.mem_cons.mp hshown with rfl | hshown
    · exact htitles.length_eq
    · rcases List.mem_cons.mp hshown with rfl | hshown
      · exact hrules.length_eq
      · obtain ⟨row, hrow, rfl⟩ := List.mem_map.mp hshown
        exact (hcells row hrow).length_eq
  · rw [List.forall₂_map_right_iff, List.forall₂_same]
    exact hcells
  · intro hlegible
    exact map_readRow hlegible hrectangular
  · intro hlegible other hother hcolumns hrender
    have htitlesEq : layout.titles other = layout.titles table := by
      rw [Layout.titles, Layout.titles, hcolumns]
    have hwidthsEq : layout.widths other = layout.widths table := by
      rw [Layout.widths, Layout.widths, htitlesEq]
    have hlinesOther : layout.OnOneLine other := by
      rw [Layout.OnOneLine, htitlesEq]
      exact hlines
    have hsame : renderLines layout other = renderLines layout table := by
      rw [← lines_render hlinesOther, hrender, lines_render hlines]
    -- of both texts the lines under the rules are read under the same columns
    have hrows := (List.cons.inj (List.cons.inj hsame).2).2
    rw [← map_readRow hlegible hother, hrows, hcolumns, map_readRow hlegible hrectangular]

/-- Under a title that looks like two columns marks of three and two characters are read back: both
columns are as wide as they must be, the line of the row tells its marks, and no other row makes the
same text. -/
theorem row_of_uneven_marks_is_read_back :
    let layout : Layout := ⟨"p | q", "yes", "no"⟩
    let row : Row := ⟨[true], false⟩
    (∃ titleLine rules shown, Text.lines (render layout ⟨["p"], [row]⟩) =
        [titleLine, rules, shown] ∧
      (∀ text ∈ [titleLine, rules, shown], text.length = 11) ∧
      layout.readRow ["p"] shown = row) ∧
    ∀ other : Row, other.values.length = 1 →
      render layout ⟨["p"], [other]⟩ = render layout ⟨["p"], [row]⟩ → other = row := by
  intro layout row
  have hlegible : layout.Legible := by
    refine ⟨by decide, ?_⟩
    intro value
    cases value with
    | true => show Text.IsUnspaced "yes"; decide
    | false => show Text.IsUnspaced "no"; decide
  have hlines : layout.OnOneLine ⟨["p"], [row]⟩ := by
    show ∀ text ∈ ["yes", "no", "p", "p | q"], '\n' ∉ text.toList
    decide
  have hrectangular : ∀ shown : Row, shown.values.length = 1 →
      IsRectangular ⟨["p"], [shown]⟩ := by
    intro shown hshown other hother
    rw [List.mem_singleton.mp hother]
    exact hshown
  obtain ⟨⟨titleLine, rules, rowLines, htext, hcount, hlength, -, -, -, hread⟩, hsame⟩ :=
    rendering_is_aligned_and_legible (hrectangular row rfl) hlines
  obtain ⟨shown, rfl⟩ := List.length_eq_one_iff.mp hcount
  have hwide : (layout.widths ⟨["p"], [row]⟩).sum + 3 * ["p"].length = 11 := by decide
  refine ⟨⟨titleLine, rules, shown, htext, hwide ▸ hlength, (List.cons.inj (hread hlegible)).1⟩, ?_⟩
  intro other hother hrender
  exact (List.cons.inj (hsame hlegible _ (hrectangular other hother) rfl hrender)).1

end TruthTable

end Sentential
