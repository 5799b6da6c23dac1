import Mathlib.Tactic.Common
import TableShell.Proofs.Report.Aligned
import TableShell.Table
import TableShell.Terminal.Screen

/-!
# Columns that are wide enough

The widths that a table gets on show fit it: a column for a column, each at least as wide as its
name and every cell under it (`fits_tableWidths`). On widths that fit, drawing shortens nothing, from
whatever row and column on the table is shown: the picture is the one that is drawn with all texts
whole (`tableRows_eq_whole`).
-/

namespace TableShell
namespace Terminal

/-- The widths have a place for every column of the table, in which its name and its cells fit. -/
structure Fits (t : Table) (widths : List ℕ) : Prop where
  length_eq : widths.length = t.columns.length
  minWidth_le : ∀ width ∈ widths, Session.minWidth ≤ width
  name_le : ∀ {place : ℕ} {column : Column} {width : ℕ}, t.columns[place]? = some column →
    widths[place]? = some width → Grid.width column.name ≤ width
  cell_le : ∀ {place : ℕ} {cell : Cell} {width : ℕ}, cell ∈ t.cellsAt place →
    widths[place]? = some width → Grid.width cell.display ≤ width

theorem fits_tableWidths (t : Table) : Fits t (Session.tableWidths t) := by
  have hplace : ∀ {place : ℕ} {width : ℕ}, (Session.tableWidths t)[place]? = some width →
      ∃ column, t.columns[place]? = some column ∧
        width = max Session.minWidth (Grid.columnWidth t.rows place column) := by
    intro place width hwidth
    rw [Session.tableWidths, List.getElem?_map, Grid.columnWidths, List.getElem?_mapIdx] at hwidth
    cases hcolumn : t.columns[place]? with
    | none =>
      rw [hcolumn] at hwidth
      cases hwidth
    | some column =>
      rw [hcolumn] at hwidth
      cases hwidth
      exact ⟨column, rfl, rfl⟩
  constructor
  · simp [Session.tableWidths, Grid.columnWidths]
  · intro width hmem
    obtain ⟨n, -, rfl⟩ := List.mem_map.mp hmem
    exact Nat.le_max_left _ _
  · intro place column width hcolumn hwidth
    obtain ⟨column', hcolumn', rfl⟩ := hplace hwidth
    rw [hcolumn] at hcolumn'
    cases hcolumn'
    exact Nat.le_trans (Grid.width_name_le t.rows place column) (Nat.le_max_right _ _)
  · intro place cell width hcell hwidth
    obtain ⟨column, -, rfl⟩ := hplace hwidth
    exact Nat.le_trans (Grid.width_display_le hcell column) (Nat.le_max_right _ _)

namespace Screen

/-! ## Drawing with all texts whole -/

/-- One row of the table on show, with its labels whole. -/
def labelRowWhole (width : ℕ) (slots : List Slot) (labels : List (String × Style)) : List Glyph :=
  let cells := (slots.zip labels).map fun (slot, text, style) =>
    Picture.labelOf slot.places style (firstLine text)
  Picture.fill width .plain ((List.intercalate [.blank .plain] cells).take width)

/-- The rows of the table on show, with all names and cells whole. -/
def tableRowsWhole (width height : ℕ) (s : Session) (t : Table) : Picture :=
  let names := (t.columns.drop s.sideScroll).map fun column =>
    (column.name, Style.boldColour .yellow)
  let shown := ((t.rows.drop s.scroll).take (height - 2)).map (·.drop s.sideScroll)
  let slots := slotsOf width (s.widths.drop s.sideScroll) shown
  let cells (row : Row) := row.map fun cell => (cell.display, cellStyle cell)
  Picture.heightOf width height .plain
    (labelRowWhole width slots names :: shown.map fun row => labelRowWhole width slots (cells row))

theorem shorten_of_le {length : ℕ} {s : String} (h : Grid.width s ≤ length) :
    shorten length s = s :=
  if_pos h

theorem labelRow_eq_whole {width : ℕ} {slots : List Slot} {labels : List (String × Style)}
    (h : ∀ pair ∈ slots.zip labels, Grid.width pair.2.1 ≤ pair.1.characters) :
    labelRow width slots labels = labelRowWhole width slots labels := by
  have hcells : ((slots.zip labels).map fun (slot, text, style) =>
        Picture.labelOf slot.places style (firstLine (shorten slot.characters text)))
      = (slots.zip labels).map fun (slot, text, style) =>
        Picture.labelOf slot.places style (firstLine text) := by
    apply List.map_congr_left
    intro pair hpair
    obtain ⟨slot, text, style⟩ := pair
    simp only [shorten_of_le (h _ hpair)]
  unfold labelRow labelRowWhole
  rw [hcells]

/-- Labels that stand in columns have slots with the characters of their columns. -/
theorem width_le_characters {width start : ℕ} {widths : List ℕ} {rows : List Row}
    {labels : List (String × Style)}
    (h : ∀ {place : ℕ} {label : String × Style}, labels[place]? = some label →
      ∃ w, widths[start + place]? = some w ∧ Grid.width label.1 ≤ w) :
    ∀ pair ∈ (slotsOf width (widths.drop start) rows).zip labels,
      Grid.width pair.2.1 ≤ pair.1.characters := by
  intro pair hpair
  obtain ⟨place, hplace⟩ := List.mem_iff_getElem?.mp hpair
  obtain ⟨hslot, hlabel⟩ := List.getElem?_zip_eq_some.mp hplace
  obtain ⟨w, hwidth, hle⟩ := h hlabel
  have hdropped : (widths.drop start)[place]? = some w := by
    rw [List.getElem?_drop, hwidth]
  -- there is a width at the place, so the slots are those of the widths
  have hempty : (widths.drop start).isEmpty = false := by
    cases hnil : widths.drop start with
    | nil =>
      rw [hnil] at hdropped
      cases hdropped
    | cons => rfl
  rw [slotsOf, hempty, if_neg Bool.false_ne_true, List.getElem?_map, hdropped] at hslot
  have hcharacters : w = pair.1.characters := congrArg Slot.characters (Option.some.inj hslot)
  rwa [← hcharacters]

variable {t : Table} {widths : List ℕ}

theorem exists_width (h : Fits t widths) {place : ℕ} (hplace : place < t.columns.length) :
    ∃ w, widths[place]? = some w := by
  rw [← h.length_eq] at hplace
  exact ⟨widths[place], List.getElem?_eq_getElem hplace⟩

theorem names_eq_whole (h : Fits t widths) (width start : ℕ) (rows : List Row) (style : Style) :
    labelRow width (slotsOf width (widths.drop start) rows)
        ((t.columns.drop start).map fun column => (column.name, style))
      = labelRowWhole width (slotsOf width (widths.drop start) rows)
        ((t.columns.drop start).map fun column => (column.name, style)) := by
  apply labelRow_eq_whole
  apply width_le_characters
  intro place label hlabel
  rw [List.getElem?_map, List.getElem?_drop, Option.map_eq_some_iff] at hlabel
  obtain ⟨column, hcolumn, rfl⟩ := hlabel
  obtain ⟨w, hwidth⟩ := exists_width h (List.getElem?_eq_some_iff.mp hcolumn).1
  exact ⟨w, hwidth, h.name_le hcolumn hwidth⟩

theorem cells_eq_whole (h : Fits t widths) (hwell : t.WellFormed) {row : Row} (hrow : row ∈ t.rows)
    (width start : ℕ) (rows : List Row) (style : Cell → Style) :
    labelRow width (slotsOf width (widths.drop start) rows)
        ((row.drop start).map fun cell => (cell.display, style cell))
      = labelRowWhole width (slotsOf width (widths.drop start) rows)
        ((row.drop start).map fun cell => (cell.display, style cell)) := by
  apply labelRow_eq_whole
  apply width_le_characters
  intro place label hlabel
  rw [List.getElem?_map, List.getElem?_drop, Option.map_eq_some_iff] at hlabel
  obtain ⟨cell, hcell, rfl⟩ := hlabel
  -- a row is no longer than the columns, so each of its cells stands under one
  have hlt := (List.getElem?_eq_some_iff.mp hcell).1
  rw [(hwell.rows_fit row hrow).1] at hlt
  obtain ⟨w, hwidth⟩ := exists_width h hlt
  have hunder : cell ∈ t.cellsAt (start + place) := List.mem_filterMap.mpr ⟨row, hrow, hcell⟩
  exact ⟨w, hwidth, h.cell_le hunder hwidth⟩

/-- On widths that fit, drawing shortens no name and no cell. -/
theorem tableRows_eq_whole {s : Session} (h : Fits t s.widths) (hwell : t.WellFormed)
    (width height : ℕ) : tableRows width height s t = tableRowsWhole width height s t := by
  unfold tableRows tableRowsWhole
  simp only
  generalize hshown : ((t.rows.drop s.scroll).take (height - 2)).map (·.drop s.sideScroll) = shown
  rw [names_eq_whole h width s.sideScroll shown]
  have hrows : ∀ row ∈ shown,
      labelRow width (slotsOf width (s.widths.drop s.sideScroll) shown)
          (row.map fun cell => (cell.display, cellStyle cell))
        = labelRowWhole width (slotsOf width (s.widths.drop s.sideScroll) shown)
          (row.map fun cell => (cell.display, cellStyle cell)) := by
    intro row hrow
    rw [← hshown] at hrow
    obtain ⟨whole, hmem, rfl⟩ := List.mem_map.mp hrow
    have hstored : whole ∈ t.rows := List.mem_of_mem_drop (List.mem_of_mem_take hmem)
    exact cells_eq_whole h hwell hstored width s.sideScroll shown cellStyle
  rw [List.map_congr_left hrows]

end Screen
end Terminal
end TableShell
