import TableShell.Proofs.Except.Traversal
import TableShell.Proofs.Report.Numbered

/-!
# Grids are aligned

All lines of a grid have the same number of characters, and in each of them the text of a column
begins at the same place (`Aligned`): every shown text fits the width of its column, since the width
is the largest of them (`columnWidth_le_iff`), and is filled up to it. A grid shows the rows of some
numbers, each of them once and in the order of the table (`IsGrid`): all of them, or the first and
the last five of a long table. There is a grid exactly if no name and no shown cell is longer than a
text can be filled up to (`Fillable`, `preview_aligned`).
-/

namespace TableShell
namespace Grid

/-! ## Joined texts -/

section Joined

variable {α : Type} (separator : List α)

/-- Texts with a separator between neighbours have one separator less than there are texts. -/
theorem length_intercalate (texts : List (List α)) :
    (separator.intercalate texts).length
      = (texts.map List.length).sum + separator.length * (texts.length - 1) := by
  induction texts with
  | nil => simp
  | cons text texts ih =>
    cases texts with
    | nil => simp
    | cons next texts =>
      rw [List.intercalate_cons_cons, List.length_append, List.length_append, ih]
      simp only [List.map_cons, List.sum_cons, List.length_cons, Nat.add_sub_cancel, Nat.mul_succ]
      omega

/-- A joined text stands behind those before it, with a separator behind each of them. -/
theorem take_drop_intercalate {texts : List (List α)} {i : ℕ} {text : List α}
    (h : texts[i]? = some text) :
    ((separator.intercalate texts).drop
        (((texts.take i).map fun before => before.length + separator.length).sum)).take text.length
      = text := by
  induction texts generalizing i with
  | nil => cases h
  | cons first texts ih =>
    cases i with
    | zero =>
      cases h
      cases texts with
      | nil => simp
      | cons next texts => simp [List.intercalate_cons_cons]
    | succ i =>
      rw [List.getElem?_cons_succ] at h
      cases texts with
      | nil => cases h
      | cons next texts =>
        have hrest := ih h
        rw [List.intercalate_cons_cons, List.take_succ_cons, List.map_cons, List.sum_cons,
          ← List.drop_drop, ← List.length_append, List.drop_left]
        exact hrest

end Joined

/-! ## Lines -/

/-- The number of characters of a line: those of its columns, and three between neighbours. -/
def lineWidth (widths : List ℕ) : ℕ :=
  widths.sum + 3 * (widths.length - 1)

/-- The number of characters before a column: those of the columns before it, and three behind each
of them. -/
def columnStart (widths : List ℕ) (index : ℕ) : ℕ :=
  ((widths.take index).map (· + 3)).sum

/-- The line shows a text in each column: whole, from the start of the column on, and with spaces
behind it up to the width. -/
structure Aligned (widths : List ℕ) (texts : List String) (line : String) : Prop where
  length_eq : texts.length = widths.length
  width_eq : width line = lineWidth widths
  fits : ∀ (index : ℕ) (text : String) (w : ℕ), texts[index]? = some text →
    widths[index]? = some w → width text ≤ w
  shows : ∀ (index : ℕ) (text : String) (w : ℕ), texts[index]? = some text →
    widths[index]? = some w → (line.toList.drop (columnStart widths index)).take w
        = text.toList ++ List.replicate (w - width text) ' '

theorem width_fill {w : ℕ} {text : String} (h : width text ≤ w) : width (fill w text) = w := by
  unfold width at *
  rw [fill, String.toList_ofList, List.length_append, List.length_replicate]
  omega

/-- The texts, filled up to the widths, with a separator between neighbours. -/
def filledLine (separator : String) (widths : List ℕ) (texts : List String) : String :=
  separator.intercalate ((texts.zip widths).map fun pair => fill pair.2 pair.1)

/-- Texts that fit their columns, filled up and with separators of three characters between them,
are aligned. -/
theorem aligned_filledLine {separator : String} (hseparator : width separator = 3)
    {widths : List ℕ} {texts : List String} (hlength : texts.length = widths.length)
    (hfits : ∀ (index : ℕ) (text : String) (w : ℕ), texts[index]? = some text →
      widths[index]? = some w → width text ≤ w) :
    Aligned widths texts (filledLine separator widths texts) := by
  generalize hcells : (((texts.zip widths).map fun pair => fill pair.2 pair.1).map String.toList)
    = cells
  have hcell : ∀ (index : ℕ) (text : String) (w : ℕ), texts[index]? = some text →
      widths[index]? = some w → cells[index]? = some (fill w text).toList := by
    intro index text w htext hw
    have hpair : (texts.zip widths)[index]? = some (text, w) :=
      List.getElem?_zip_eq_some.mpr ⟨htext, hw⟩
    rw [← hcells, List.getElem?_map, List.getElem?_map, hpair]
    rfl
  -- the filled up texts are as long as the columns are wide
  have hwidths : cells.map List.length = widths := by
    apply List.ext_getElem?
    intro index
    rw [List.getElem?_map]
    by_cases hindex : index < widths.length
    · have htext : texts[index]? = some texts[index] := List.getElem?_eq_getElem (hlength ▸ hindex)
      have hw : widths[index]? = some widths[index] := List.getElem?_eq_getElem hindex
      rw [hcell index _ _ htext hw, hw, Option.map_some]
      exact congrArg some (width_fill (hfits index _ _ htext hw))
    · have hnone : cells.length ≤ index := by
        rw [← hcells, List.length_map, List.length_map, List.length_zip]
        omega
      rw [List.getElem?_eq_none hnone, List.getElem?_eq_none (Nat.le_of_not_lt hindex)]
      rfl
  have hline : (filledLine separator widths texts).toList
      = separator.toList.intercalate cells := by
    rw [filledLine, String.toList_intercalate, hcells]
  have hthree : separator.toList.length = 3 := hseparator
  refine ⟨hlength, ?_, hfits, ?_⟩
  · rw [width, hline, length_intercalate, hthree, lineWidth, ← hwidths, List.length_map]
  · intro index text w htext hw
    have hat := take_drop_intercalate separator.toList (hcell index text w htext hw)
    have hstart : ((cells.take index).map fun before => before.length + separator.toList.length).sum
        = columnStart widths index := by
      rw [columnStart, hthree, ← hwidths, ← List.map_take, List.map_map]
      rfl
    have hpadded : (fill w text).toList.length = w := width_fill (hfits index text w htext hw)
    rw [hline, ← hstart]
    rw [hpadded] at hat
    rw [hat, fill, String.toList_ofList]
    rfl

/-! ## The widths of columns -/

theorem foldl_max_le_iff {bound start : ℕ} {ns : List ℕ} :
    ns.foldl max start ≤ bound ↔ start ≤ bound ∧ ∀ n ∈ ns, n ≤ bound := by
  induction ns generalizing start with
  | nil => simp
  | cons n ns ih =>
    rw [List.foldl_cons, ih, List.forall_mem_cons, Nat.max_le, and_assoc]

/-- A column is no wider than a bound exactly if its name and its cells are not. -/
theorem columnWidth_le_iff {rows : List Row} {index : ℕ} {column : Column} {bound : ℕ} :
    columnWidth rows index column ≤ bound ↔ width column.name ≤ bound ∧
      ∀ cell ∈ rows.filterMap fun row => row[index]?, width cell.display ≤ bound := by
  rw [columnWidth, foldl_max_le_iff, List.forall_mem_map]

theorem width_name_le (rows : List Row) (index : ℕ) (column : Column) :
    width column.name ≤ columnWidth rows index column :=
  (columnWidth_le_iff.mp (Nat.le_refl _)).1

theorem width_display_le {rows : List Row} {index : ℕ} {cell : Cell}
    (h : cell ∈ rows.filterMap fun row => row[index]?) (column : Column) :
    width cell.display ≤ columnWidth rows index column :=
  (columnWidth_le_iff.mp (Nat.le_refl _)).2 cell h

theorem getElem?_columnWidths (columns : List Column) (rows : List Row) (index : ℕ) :
    (columnWidths columns rows)[index]?
      = columns[index]?.map fun column => columnWidth rows index column :=
  List.getElem?_mapIdx

theorem length_columnWidths (columns : List Column) (rows : List Row) :
    (columnWidths columns rows).length = columns.length :=
  List.length_mapIdx

/-- The names of the columns and the cells of the rows have no more characters than a text can be
filled up to. -/
structure Fillable (t : Table) (rows : List Row) : Prop where
  names : ∀ column ∈ t.columns, width column.name ≤ widthLimit
  cells : ∀ row ∈ rows, ∀ cell ∈ row, width cell.display ≤ widthLimit

/-- No column is too wide exactly if no name and no cell is too long. -/
theorem fillable_iff {t : Table} {rows : List Row}
    (hlength : ∀ row ∈ rows, row.length = t.columns.length) :
    Fillable t rows ↔ ∀ w ∈ columnWidths t.columns rows, w ≤ widthLimit := by
  constructor
  · intro hfill w hw
    obtain ⟨index, hindex⟩ := List.mem_iff_getElem?.mp hw
    rw [getElem?_columnWidths, Option.map_eq_some_iff] at hindex
    obtain ⟨column, hcolumn, rfl⟩ := hindex
    rw [columnWidth_le_iff]
    refine ⟨hfill.names column (List.mem_of_getElem? hcolumn), fun cell hcell => ?_⟩
    obtain ⟨row, hrow, hcell⟩ := List.mem_filterMap.mp hcell
    exact hfill.cells row hrow cell (List.mem_of_getElem? hcell)
  · intro hwidths
    have hcolumns : ∀ {index : ℕ} {column : Column}, t.columns[index]? = some column →
        columnWidth rows index column ≤ widthLimit := by
      intro index column hcolumn
      apply hwidths
      apply List.mem_of_getElem? (i := index)
      rw [getElem?_columnWidths, hcolumn, Option.map_some]
    constructor
    · intro column hcolumn
      obtain ⟨index, hindex⟩ := List.mem_iff_getElem?.mp hcolumn
      exact (columnWidth_le_iff.mp (hcolumns hindex)).1
    · intro row hrow cell hcell
      obtain ⟨index, hindex⟩ := List.mem_iff_getElem?.mp hcell
      -- there is a column over the cell
      have hlt : index < t.columns.length := by
        rw [← hlength row hrow]
        exact (List.getElem?_eq_some_iff.mp hindex).1
      have hcolumn := hcolumns (List.getElem?_eq_getElem hlt)
      exact (columnWidth_le_iff.mp hcolumn).2 cell (List.mem_filterMap.mpr ⟨row, hrow, hindex⟩)

/-! ## Lines that are filled up -/

section Limit

variable {widths : List ℕ}

theorem pad_eq_ok_iff {w : ℕ} {text line : String} :
    pad w text = .ok line ↔ w ≤ widthLimit ∧ fill w text = line := by
  rw [pad]
  split
  · rename_i hw
    rw [Except.ok.injEq, and_iff_right hw]
  · rename_i hw
    exact iff_of_false nofun fun h => hw h.1

/-- Within the limit every line is there. -/
theorem textLine_eq (h : ∀ w ∈ widths, w ≤ widthLimit) (texts : List String) :
    textLine widths texts = .ok (filledLine " | " widths texts) := by
  have hcells : ((texts.zip widths).mapM fun pair => pad pair.2 pair.1)
      = .ok ((texts.zip widths).map fun pair => fill pair.2 pair.1) := by
    rw [Traversal.mapM_eq_ok_iff, List.forall₂_map_right_iff, List.forall₂_same]
    intro pair hpair
    exact pad_eq_ok_iff.mpr ⟨h pair.2 (List.of_mem_zip hpair).2, rfl⟩
  rw [textLine, hcells]
  rfl

/-- A column that is too wide leaves no line with a text in each column. -/
theorem textLine_eq_error {texts : List String} (hlength : texts.length = widths.length)
    (h : ¬ ∀ w ∈ widths, w ≤ widthLimit) : textLine widths texts = .error .outOfRange := by
  cases hline : textLine widths texts with
  | error e => cases e with | outOfRange => rfl
  | ok line =>
    refine absurd (fun w hw => ?_) h
    obtain ⟨cells, hcells, -⟩ := Traversal.map_eq_ok_iff.mp hline
    have hsnd : (texts.zip widths).map Prod.snd = widths := List.map_snd_zip hlength.ge
    rw [← hsnd] at hw
    obtain ⟨pair, hpair, rfl⟩ := List.mem_map.mp hw
    obtain ⟨cell, -, hcell⟩ :=
      Traversal.exists_of_mem_forall₂ (Traversal.mapM_eq_ok_iff.mp hcells).flip hpair
    exact (pad_eq_ok_iff.mp hcell).1

theorem headerLines_eq (h : ∀ w ∈ widths, w ≤ widthLimit) (columns : List Column) :
    headerLines columns widths
      = .ok [filledLine " | " widths (columns.map Column.name), ruleLine widths] := by
  rw [headerLines, headerLine, textLine_eq h]
  rfl

theorem headerLines_eq_error {columns : List Column} (hlength : columns.length = widths.length)
    (h : ¬ ∀ w ∈ widths, w ≤ widthLimit) :
    headerLines columns widths = .error .outOfRange := by
  rw [headerLines, headerLine, textLine_eq_error (by rwa [List.length_map]) h]
  rfl

theorem mapM_rowLine_eq (h : ∀ w ∈ widths, w ≤ widthLimit) (rows : List Row) :
    rows.mapM (rowLine widths)
      = .ok (rows.map fun row => filledLine " | " widths (row.map Cell.display)) := by
  rw [Traversal.mapM_eq_ok_iff, List.forall₂_map_right_iff, List.forall₂_same]
  exact fun row _ => textLine_eq h (row.map Cell.display)

end Limit

/-! ## Grids -/

section Grids

variable {t : Table} {rows : List Row} {numbers : List ℕ}

theorem aligned_names (columns : List Column) (rows : List Row) :
    Aligned (columnWidths columns rows) (columns.map Column.name)
      (filledLine " | " (columnWidths columns rows) (columns.map Column.name)) := by
  apply aligned_filledLine rfl
  · rw [List.length_map, length_columnWidths]
  · intro index text w htext hw
    rw [List.getElem?_map, Option.map_eq_some_iff] at htext
    obtain ⟨column, hcolumn, rfl⟩ := htext
    rw [getElem?_columnWidths, hcolumn, Option.map_some] at hw
    cases hw
    exact width_name_le rows index column

/-- The rule under a column is as long as the column is wide. -/
def rule (w : ℕ) : String :=
  .ofList (List.replicate w '-')

theorem aligned_ruleLine (widths : List ℕ) :
    Aligned widths (widths.map rule) (ruleLine widths) := by
  have hwidth : ∀ w, width (rule w) = w := by
    intro w
    rw [width, rule, String.toList_ofList, List.length_replicate]
  have hline : ruleLine widths = filledLine "-+-" widths (widths.map rule) := by
    have hfill : ∀ w, fill w (rule w) = rule w := by
      intro w
      have hlength : (rule w).toList.length = w := hwidth w
      rw [fill, hlength, Nat.sub_self, List.replicate_zero, List.append_nil, String.ofList_toList]
    have hzip : (widths.map rule).zip widths = widths.map fun w => (rule w, w) := by
      simpa using List.zip_map' (f := rule) (g := id) (l := widths)
    rw [ruleLine, filledLine, hzip, List.map_map]
    congr 1
    apply List.map_congr_left
    intro w _
    exact (hfill w).symm
  rw [hline]
  apply aligned_filledLine rfl
  · rw [List.length_map]
  · intro index text w htext hw
    rw [List.getElem?_map, hw, Option.map_some] at htext
    cases htext
    exact Nat.le_of_eq (hwidth w)

/-- A row is aligned with the names of the columns, if it is one of those that the widths are
for. -/
theorem aligned_cells {columns : List Column} {row : Row} (hrow : row ∈ rows)
    (hlength : row.length = columns.length) :
    Aligned (columnWidths columns rows) (row.map Cell.display)
      (filledLine " | " (columnWidths columns rows) (row.map Cell.display)) := by
  apply aligned_filledLine rfl
  · rw [List.length_map, length_columnWidths, hlength]
  · intro index text w htext hw
    rw [List.getElem?_map, Option.map_eq_some_iff] at htext
    obtain ⟨cell, hcell, rfl⟩ := htext
    rw [getElem?_columnWidths, Option.map_eq_some_iff] at hw
    obtain ⟨column, -, rfl⟩ := hw
    exact width_display_le (List.mem_filterMap.mpr ⟨row, hrow, hcell⟩) column

/-- The lines of a grid of the rows of the numbers: one for the names, the rule, and one for each
row. Each number is that of a row, none stands twice, and they are in order. -/
structure IsGrid (t : Table) (widths numbers : List ℕ) (header ruled : String)
    (lines : List String) : Prop where
  increasing : numbers.Pairwise (· < ·)
  in_range : ∀ number ∈ numbers, number < t.rows.length
  header : Aligned widths t.columnNames header
  ruled : Aligned widths (widths.map rule) ruled
  rows : List.Forall₂ (fun number line =>
    ∃ row, t.rows[number]? = some row ∧ Aligned widths (row.map Cell.display) line) numbers lines

theorem Numbers.isGrid (h : Numbers t numbers rows) (hincreasing : numbers.Pairwise (· < ·))
    (hwidth : ∀ row ∈ t.rows, row.length = t.columns.length) :
    IsGrid t (columnWidths t.columns rows) numbers
      (filledLine " | " (columnWidths t.columns rows) (t.columns.map Column.name))
      (ruleLine (columnWidths t.columns rows))
      (rows.map fun row =>
        filledLine " | " (columnWidths t.columns rows) (row.map Cell.display)) where
  increasing := hincreasing
  in_range := by
    intro number hnumber
    have hmem : t.rows[number]? ∈ rows.map some := h ▸ List.mem_map_of_mem hnumber
    obtain ⟨row, -, hrow⟩ := List.mem_map.mp hmem
    exact (List.getElem?_eq_some_iff.mp hrow.symm).1
  header := aligned_names t.columns rows
  ruled := aligned_ruleLine _
  rows := by
    rw [List.forall₂_map_right_iff]
    have hrows : List.Forall₂ (fun number row => t.rows[number]? = some row) numbers rows := by
      rw [← List.forall₂_map_left_iff (f := fun number => t.rows[number]?)
        (R := fun row? row => row? = some row), h, List.forall₂_map_left_iff, List.forall₂_same]
      exact fun _ _ => rfl
    rw [List.forall₂_iff_get] at hrows ⊢
    refine ⟨hrows.1, ?_⟩
    intro i hnumber hrow
    have hat := hrows.2 i hnumber hrow
    refine ⟨rows.get ⟨i, hrow⟩, hat, ?_⟩
    exact aligned_cells (List.get_mem rows _) (hwidth _ (List.mem_of_getElem? hat))

theorem fullText_eq {widths : List ℕ} (h : ∀ w ∈ widths, w ≤ widthLimit) (columns : List Column)
    (rows : List Row) :
    fullText columns widths rows = .ok ("\n".intercalate
      (filledLine " | " widths (columns.map Column.name) :: ruleLine widths ::
        (rows.map fun row => filledLine " | " widths (row.map Cell.display)) ++
          [countLine rows.length])) := by
  rw [fullText, headerLines_eq h, mapM_rowLine_eq h]
  rfl

theorem previewText_eq {widths : List ℕ} (h : ∀ w ∈ widths, w ≤ widthLimit)
    (columns : List Column) (total : ℕ) (first last : List Row) :
    previewText columns widths total first last = .ok ("\n".intercalate
      (filledLine " | " widths (columns.map Column.name) :: ruleLine widths ::
        (first.map fun row => filledLine " | " widths (row.map Cell.display)) ++
          [omissionLine total] ++
            last.map fun row => filledLine " | " widths (row.map Cell.display))) := by
  rw [previewText, headerLines_eq h, mapM_rowLine_eq h, mapM_rowLine_eq h]
  rfl

theorem full_eq (hrows : t.rows ≠ []) :
    full t = fullText t.columns (columnWidths t.columns t.rows) t.rows :=
  if_neg (by simpa using hrows)

theorem preview_eq (hlong : previewLimit < t.rows.length) :
    preview t = previewText t.columns
      (columnWidths t.columns (headRows t.rows ++ tailRows t.rows)) t.rows.length
      (headRows t.rows) (tailRows t.rows) :=
  if_neg (Nat.not_le_of_lt hlong)

/-- The numbers of the rows at both ends of a long table are in order, and none is at both. -/
theorem pairwise_edges {total : ℕ} (h : previewLimit < total) :
    (List.range previewEdge ++ List.range' (total - previewEdge) previewEdge).Pairwise
      (· < ·) := by
  rw [List.pairwise_append]
  refine ⟨List.pairwise_lt_range, List.pairwise_lt_range', ?_⟩
  intro number hnumber later hlater
  rw [List.mem_range] at hnumber
  have hstart := (List.mem_range'_1.mp hlater).1
  unfold previewLimit at h
  unfold previewEdge at *
  omega

theorem exists_full (h : t.WellFormed) (hrows : t.rows ≠ []) (hfill : Fillable t t.rows) :
    ∃ header ruled lines,
      full t = .ok ("\n".intercalate (header :: ruled :: lines ++ [countLine t.rows.length])) ∧
      IsGrid t (columnWidths t.columns t.rows) (List.range t.rows.length) header ruled lines := by
  have hwidth := length_of_mem_rows h
  rw [full_eq hrows, fullText_eq ((fillable_iff hwidth).mp hfill)]
  exact ⟨_, _, _, rfl, (numbers_all t).isGrid List.pairwise_lt_range hwidth⟩

theorem full_eq_error (h : t.WellFormed) (hrows : t.rows ≠ []) (hfill : ¬ Fillable t t.rows) :
    full t = .error .outOfRange := by
  have hwide := (fillable_iff (length_of_mem_rows h)).not.mp hfill
  rw [full_eq hrows, fullText, headerLines_eq_error (length_columnWidths _ _).symm hwide]
  rfl

theorem exists_preview (h : t.WellFormed) (hlong : previewLimit < t.rows.length)
    (hfill : Fillable t (headRows t.rows ++ tailRows t.rows)) :
    ∃ header ruled first last,
      preview t = .ok ("\n".intercalate
        (header :: ruled :: first ++ [omissionLine t.rows.length] ++ last)) ∧
      first.length = previewEdge ∧ last.length = previewEdge ∧
      IsGrid t (columnWidths t.columns (headRows t.rows ++ tailRows t.rows))
        (List.range previewEdge ++ List.range' (t.rows.length - previewEdge) previewEdge)
        header ruled (first ++ last) := by
  have hedge : previewEdge ≤ t.rows.length := by
    unfold previewLimit at hlong
    unfold previewEdge
    omega
  have hgrid := ((numbers_head hedge).append (numbers_tail hedge)).isGrid (pairwise_edges hlong)
    (length_of_mem_rows h)
  rw [List.map_append] at hgrid
  rw [preview_eq hlong, previewText_eq ((fillable_iff (length_of_mem_edges h)).mp hfill)]
  refine ⟨_, _, _, _, rfl, ?_, ?_, hgrid⟩
  · rw [List.length_map, headRows, List.length_take]
    exact Nat.min_eq_left hedge
  · rw [List.length_map, tailRows, List.length_drop]
    exact Nat.sub_sub_self hedge

theorem preview_eq_error (h : t.WellFormed) (hlong : previewLimit < t.rows.length)
    (hfill : ¬ Fillable t (headRows t.rows ++ tailRows t.rows)) :
    preview t = .error .outOfRange := by
  have hwide := (fillable_iff (length_of_mem_edges h)).not.mp hfill
  rw [preview_eq hlong, previewText, headerLines_eq_error (length_columnWidths _ _).symm hwide]
  rfl

/-- A table with rows is drawn with all of them, once and in order, or with the first and the last
five and one line between them that tells their number. The names, the rule and the rows are
aligned, and no row and no cell is looked up that is not there. If a name or a shown cell is longer
than a text can be filled up to, the table is not drawn at all. -/
theorem preview_aligned (h : t.WellFormed) (hrows : t.rows ≠ []) :
    (Fillable t t.rows → ∃ header ruled lines,
      full t = .ok ("\n".intercalate (header :: ruled :: lines ++ [countLine t.rows.length])) ∧
      IsGrid t (columnWidths t.columns t.rows) (List.range t.rows.length) header ruled lines) ∧
    (¬ Fillable t t.rows → full t = .error .outOfRange) ∧
    (t.rows.length ≤ 10 → preview t = full t) ∧
    (10 < t.rows.length → Fillable t (headRows t.rows ++ tailRows t.rows) →
      ∃ header ruled first last,
        preview t = .ok ("\n".intercalate
          (header :: ruled :: first ++ [omissionLine t.rows.length] ++ last)) ∧
        first.length = 5 ∧ last.length = 5 ∧
        IsGrid t (columnWidths t.columns (headRows t.rows ++ tailRows t.rows))
          (List.range 5 ++ List.range' (t.rows.length - 5) 5) header ruled (first ++ last)) ∧
    (10 < t.rows.length → ¬ Fillable t (headRows t.rows ++ tailRows t.rows) →
      preview t = .error .outOfRange) ∧
    full? t = some (full t) ∧ preview? t = some (preview t) :=
  ⟨exists_full h hrows, full_eq_error h hrows, fun hshort => if_pos hshort, exists_preview h,
    preview_eq_error h, full?_eq h, preview?_eq h⟩

/-- A table whose widest number stands in its last row but one. -/
def twelveRows : Table :=
  ⟨[⟨"n", .integer⟩, ⟨"größe", .text⟩],
    List.replicate 10 [.integer 1, .text "ß"] ++
      [[.integer 12345, .missing], [.missing, .text "a b"]]⟩

theorem wellFormed_twelveRows : twelveRows.WellFormed where
  nodup_names := by decide
  rows_fit := by
    unfold twelveRows Table.RowFits Table.CellFits
    decide +kernel
  types_known := by decide

theorem preview_aligned_twelveRows :
    twelveRows.WellFormed ∧ twelveRows.rows ≠ [] ∧ 10 < twelveRows.rows.length ∧
      Fillable twelveRows (headRows twelveRows.rows ++ tailRows twelveRows.rows) ∧
      lineWidth [5, 5] = 13 ∧ columnStart [5, 5] 1 = 8 ∧
      ∃ header ruled first last, preview twelveRows = .ok ("\n".intercalate
          (header :: ruled :: first ++ ["... (Total 12 rows, middle part omitted) ..."] ++ last)) ∧
        first.length = 5 ∧ last.length = 5 ∧
        IsGrid twelveRows [5, 5] [0, 1, 2, 3, 4, 7, 8, 9, 10, 11] header ruled (first ++ last) := by
  have hrows : twelveRows.rows ≠ [] := by decide
  have hlong : 10 < twelveRows.rows.length := by decide
  have hfill : Fillable twelveRows (headRows twelveRows.rows ++ tailRows twelveRows.rows) :=
    ⟨by decide, by decide +kernel⟩
  refine ⟨wellFormed_twelveRows, hrows, hlong, hfill, rfl, rfl, ?_⟩
  have hwidths : columnWidths twelveRows.columns
      (headRows twelveRows.rows ++ tailRows twelveRows.rows) = [5, 5] := by decide +kernel
  have homission : omissionLine twelveRows.rows.length
      = "... (Total 12 rows, middle part omitted) ..." := by decide +kernel
  have hpreview := (preview_aligned wellFormed_twelveRows hrows).2.2.2.1 hlong hfill
  rw [hwidths, homission] at hpreview
  exact hpreview

/-- A table with one text of so many characters. -/
def oneText (chars : ℕ) : Table :=
  ⟨[⟨"a", .text⟩], [[.text (.ofList (List.replicate chars 'x'))]]⟩

theorem wellFormed_oneText (chars : ℕ) : (oneText chars).WellFormed where
  nodup_names := by simp [oneText, Table.columnNames]
  rows_fit := by
    intro row hrow
    rw [List.mem_singleton.mp hrow]
    refine ⟨rfl, fun pair hpair => ?_⟩
    rw [List.mem_singleton.mp hpair]
    exact Table.cellFits_text .text _
  types_known := by simp [oneText]

theorem preview_oneText {chars : ℕ} (h : widthLimit < chars) :
    full (oneText chars) = .error .outOfRange ∧ preview (oneText chars) = .error .outOfRange ∧
      ∀ message, (Report.showing message (oneText chars)).render = .error .outOfRange := by
  have hwidths : columnWidths (oneText chars).columns (oneText chars).rows = [max 1 chars] := by
    simp [columnWidths, columnWidth, oneText, width, Cell.display]
  have hwide : ¬ ∀ w ∈ [max 1 chars], w ≤ widthLimit := by
    intro hle
    have hmax := hle _ (List.mem_singleton_self _)
    omega
  have hfull : full (oneText chars) = .error .outOfRange := by
    have hrows : ¬ (oneText chars).rows.isEmpty = true := Bool.false_ne_true
    rw [full, if_neg hrows, fullText, hwidths, headerLines_eq_error rfl hwide]
    rfl
  have hpreview : preview (oneText chars) = .error .outOfRange := hfull
  refine ⟨hfull, hpreview, fun message => ?_⟩
  exact congrArg (Except.map (message ++ "\n" ++ ·)) hpreview

/-- Of a table with a text of one character more than the limit nothing is shown. -/
theorem long_text_not_drawn :
    (oneText 65536).WellFormed ∧ (oneText 65536).rows ≠ [] ∧
      full (oneText 65536) = .error .outOfRange ∧ preview (oneText 65536) = .error .outOfRange ∧
      ∀ message, (Report.showing message (oneText 65536)).render = .error .outOfRange :=
  ⟨wellFormed_oneText 65536, List.cons_ne_nil _ _, preview_oneText (Nat.lt_succ_self 65535)⟩

end Grids

end Grid
end TableShell
