import TableShell.Proofs.Delimited.Fields
import TableShell.Proofs.Text.Cutting

/-!
# Reading written rows

Texts are escaped where the delimiter occurs in them. Numbers and truth values are not, nor is what
stands for a row whose line would be empty: a delimiter that occurs in one of these cuts it, and the
row is read as one field more (`length_rowFields`). All else is read as it was written, whatever the
delimiter is, unless it ends the line or is taken for a quote (`records_write`).
-/

namespace TableShell
namespace Delimited

open Text

/-! ## Cells -/

/-- The field that a written cell is read as. -/
def writtenField (delimiter : Char) : Cell → Field
  | .missing => .blank
  | .text s => ⟨s, needsQuotes delimiter s⟩
  | cell => ⟨cell.display, false⟩

theorem fieldText_of_isValue {delimiter : Char} {cell : Cell} (h : cell.IsValue) :
    fieldText delimiter cell = cell.display := by
  cases cell <;> first | rfl | exact absurd h id

theorem writtenField_of_isValue {delimiter : Char} {cell : Cell} (h : cell.IsValue) :
    writtenField delimiter cell = ⟨cell.display, false⟩ := by
  cases cell <;> first | rfl | exact absurd h id

theorem needsQuotes_empty (delimiter : Char) : needsQuotes delimiter "" = true := by
  have hmissing : meansMissing "" = true := by decide
  simp only [needsQuotes, hmissing, Bool.true_or]

theorem display_ne_empty {cell : Cell} (h : cell.IsValue) : cell.display ≠ "" := by
  obtain ⟨c, cs, hdisplay, -⟩ := Cell.exists_cons_display h
  intro hempty
  rw [hempty] at hdisplay
  cases hdisplay

/-- Only a missing cell is written as nothing. -/
theorem eq_missing_of_fieldText {delimiter : Char} {cell : Cell} (hcell : cell ≠ .float .nan)
    (h : fieldText delimiter cell = "") : cell = .missing := by
  rcases Cell.eq_or_isValue hcell with hmissing | ⟨s, rfl⟩ | hvalue
  · exact hmissing
  · rw [fieldText, escape] at h
    split at h
    · have hlist := congrArg String.toList h
      rw [String.toList_ofList] at hlist
      cases hlist
    · rename_i hquotes
      rw [h, needsQuotes_empty] at hquotes
      exact absurd rfl hquotes
  · rw [fieldText_of_isValue hvalue] at h
    exact absurd h (display_ne_empty hvalue)

/-- Only a missing cell is read back as a blank field. -/
theorem eq_missing_of_writtenField {delimiter : Char} {cell : Cell} (hcell : cell ≠ .float .nan)
    (h : writtenField delimiter cell = .blank) : cell = .missing := by
  rcases Cell.eq_or_isValue hcell with hmissing | ⟨s, rfl⟩ | hvalue
  · exact hmissing
  · obtain ⟨hs, hquotes⟩ := Field.mk.inj h
    rw [hs, needsQuotes_empty] at hquotes
    cases hquotes
  · rw [writtenField_of_isValue hvalue] at h
    exact absurd (Field.mk.inj h).1 (display_ne_empty hvalue)

/-! ## Cut cells -/

/-- The field of some characters without quotes. -/
def bareField (cs : List Char) : Field :=
  ⟨.ofList cs, false⟩

/-- What is written for a cell without being escaped. -/
def bare : Cell → List Char
  | .missing => []
  | .text _ => []
  | cell => cell.display.toList

/-- What is written for a cell, cut where it is read as more than one field. -/
def parts (delimiter : Char) : Cell → List (List Char)
  | .missing => [[]]
  | .text s => [(escape delimiter s).toList]
  | cell => pieces delimiter cell.display.toList

/-- The fields that a written cell is read as: one, unless the delimiter occurs in what is written
bare. -/
def cutFields (delimiter : Char) : Cell → List Field
  | .missing => [.blank]
  | .text s => [⟨s, needsQuotes delimiter s⟩]
  | cell => (pieces delimiter cell.display.toList).map bareField

section Cuts

variable {delimiter : Char} {cell : Cell}

theorem parts_of_isValue (h : cell.IsValue) :
    parts delimiter cell = pieces delimiter cell.display.toList := by
  cases cell <;> first | rfl | exact absurd h id

theorem cutFields_of_isValue (h : cell.IsValue) :
    cutFields delimiter cell = (pieces delimiter cell.display.toList).map bareField := by
  cases cell <;> first | rfl | exact absurd h id

theorem bare_of_isValue (h : cell.IsValue) : bare cell = cell.display.toList := by
  cases cell <;> first | rfl | exact absurd h id

/-- A written cell is read as one field more for each delimiter that is written bare. -/
theorem length_cutFields (delimiter : Char) (cell : Cell) :
    (cutFields delimiter cell).length = (bare cell).count delimiter + 1 := by
  cases cell with
  | missing | text => rfl
  | integer | float | boolean => exact (List.length_map _).trans (length_pieces _ _)

theorem cutFields_of_not_mem (h : delimiter ∉ bare cell) :
    cutFields delimiter cell = [writtenField delimiter cell] := by
  cases cell with
  | missing | text => rfl
  | integer | float | boolean =>
    have hpieces := congrArg (List.map bareField) (pieces_of_not_mem h)
    rwa [List.map_singleton, bareField, bare.eq_def, String.ofList_toList] at hpieces

theorem parts_ne_nil (delimiter : Char) (cell : Cell) : parts delimiter cell ≠ [] := by
  cases cell with
  | missing | text => exact List.cons_ne_nil _ _
  | integer | float | boolean => exact pieces_ne_nil _ _

/-- With the delimiter between them, the parts are what is written. -/
theorem intercalate_parts (delimiter : Char) (cell : Cell) :
    [delimiter].intercalate (parts delimiter cell) = (fieldText delimiter cell).toList := by
  cases cell with
  | missing => rfl
  | text s => exact List.intercalate_singleton
  | integer | float | boolean => exact intercalate_pieces _ _

/-- Each piece of a plain text is read as a field. -/
theorem fieldSpells_pieces {cs : List Char} (h : ∀ c ∈ cs, Cell.isPlain c = true) :
    List.Forall₂ (FieldSpells delimiter) (pieces delimiter cs)
      ((pieces delimiter cs).map bareField) := by
  rw [List.forall₂_map_right_iff, List.forall₂_same]
  intro piece hpiece
  apply fieldSpells_plain (not_mem_of_mem_pieces hpiece)
  intro c hc
  exact h c (mem_of_mem_pieces hpiece hc)

/-- The parts of a cell other than not-a-number are read as its fields. -/
theorem fieldSpells_parts (hcell : cell ≠ .float .nan) :
    List.Forall₂ (FieldSpells delimiter) (parts delimiter cell) (cutFields delimiter cell) := by
  rcases Cell.eq_or_isValue hcell with rfl | ⟨s, rfl⟩ | hvalue
  · exact .cons (fieldSpells_plain (List.not_mem_nil) (by simp)) .nil
  · exact .cons (fieldSpells_escape delimiter s) .nil
  · rw [parts_of_isValue hvalue, cutFields_of_isValue hvalue]
    exact fieldSpells_pieces fun c => Cell.isPlain_of_mem_display hvalue

end Cuts

/-! ## Rows -/

/-- What is written for a row without being escaped. -/
def bareRow (row : Row) : List Char :=
  if row = [.missing] then missingRow.toList else row.flatMap bare

/-- What is written for a row, cut where it is read as another field. -/
def rowParts (delimiter : Char) (row : Row) : List (List Char) :=
  if row = [.missing] then pieces delimiter missingRow.toList else row.flatMap (parts delimiter)

/-- The fields that a written row is read as. -/
def rowFields (delimiter : Char) (row : Row) : List Field :=
  if row = [.missing] then
    (pieces delimiter missingRow.toList).map bareField
  else
    row.flatMap (cutFields delimiter)

/-- The fields that a written row is read as where the delimiter cuts nothing. -/
def writtenFields (delimiter : Char) (row : Row) : List Field :=
  if row = [.missing] then [⟨missingRow, false⟩] else row.map (writtenField delimiter)

section Rows

variable {delimiter : Char} {row : Row}

theorem isPlain_missingRow : ∀ c ∈ missingRow.toList, Cell.isPlain c = true := by
  have hplain : missingRow.toList.all Cell.isPlain = true := by decide
  exact List.all_eq_true.mp hplain

/-- What is written bare is plain. -/
theorem isPlain_of_mem_bareRow (hcells : ∀ cell ∈ row, cell ≠ .float .nan) {c : Char}
    (h : c ∈ bareRow row) : Cell.isPlain c = true := by
  rw [bareRow] at h
  split at h
  · exact isPlain_missingRow c h
  · obtain ⟨cell, hcell, hc⟩ := List.mem_flatMap.mp h
    rcases Cell.eq_or_isValue (hcells cell hcell) with rfl | ⟨s, rfl⟩ | hvalue
    · cases hc
    · cases hc
    · rw [bare_of_isValue hvalue] at hc
      exact Cell.isPlain_of_mem_display hvalue hc

/-- A written row is read as one field more for each delimiter that is written bare. -/
theorem length_rowFields (delimiter : Char) (row : Row) :
    (rowFields delimiter row).length = row.length + (bareRow row).count delimiter := by
  rw [rowFields, bareRow]
  split
  · rename_i hrow
    rw [List.length_map, length_pieces, hrow, List.length_singleton, Nat.add_comm]
  · rename_i hrow
    clear hrow
    induction row with
    | nil => rfl
    | cons cell row ih =>
      rw [List.flatMap_cons, List.length_append, length_cutFields, ih, List.flatMap_cons,
        List.count_append, List.length_cons]
      omega

/-- Where the delimiter is not written bare, no cell is cut. -/
theorem rowFields_of_not_mem (h : delimiter ∉ bareRow row) :
    rowFields delimiter row = writtenFields delimiter row := by
  rw [bareRow] at h
  rw [rowFields, writtenFields]
  split
  · rename_i hrow
    rw [if_pos hrow] at h
    rw [pieces_of_not_mem h, List.map_singleton, bareField, String.ofList_toList]
  · rename_i hrow
    rw [if_neg hrow, List.mem_flatMap] at h
    have hcut : ∀ cell ∈ row, cutFields delimiter cell = [writtenField delimiter cell] :=
      fun cell hcell => cutFields_of_not_mem fun hmem => h ⟨cell, hcell, hmem⟩
    rw [List.flatMap_congr hcut, ← List.map_eq_flatMap]

/-- The parts of a row are read as its fields. -/
theorem fieldSpells_rowParts (hcells : ∀ cell ∈ row, cell ≠ .float .nan) :
    List.Forall₂ (FieldSpells delimiter) (rowParts delimiter row) (rowFields delimiter row) := by
  rw [rowParts, rowFields]
  split
  · exact fieldSpells_pieces isPlain_missingRow
  · rename_i hrow
    clear hrow
    induction row with
    | nil => exact .nil
    | cons cell row ih =>
      rw [List.forall_mem_cons] at hcells
      rw [List.flatMap_cons, List.flatMap_cons]
      exact List.rel_append (fieldSpells_parts hcells.1) (ih hcells.2)

/-- A row is not read as a blank line. -/
theorem rowFields_ne_blank (hne : row ≠ []) (hcells : ∀ cell ∈ row, cell ≠ .float .nan) :
    rowFields delimiter row ≠ [.blank] := by
  intro hblank
  have hlength := length_rowFields delimiter row
  rw [hblank, List.length_singleton] at hlength
  have hpos := List.length_pos_iff.mpr hne
  -- a single field holds no delimiter, and is that of a single cell
  obtain ⟨cell, rfl⟩ := List.length_eq_one_iff.mp (show row.length = 1 by omega)
  rw [rowFields_of_not_mem (List.count_eq_zero.mp (by omega)), writtenFields] at hblank
  split at hblank
  · revert hblank
    decide
  · rename_i hmissing
    have hcell := hcells cell (List.mem_singleton_self cell)
    rw [eq_missing_of_writtenField hcell (List.singleton_inj.mp hblank)] at hmissing
    exact hmissing rfl

end Rows

theorem toList_join (delimiter : Char) (fields : List String) :
    (join delimiter fields).toList = [delimiter].intercalate (fields.map String.toList) := by
  rw [join, String.toList_intercalate, String.toList_singleton]

/-- A row has an empty line only if its one cell is missing. -/
theorem eq_missing_of_join {delimiter : Char} {row : Row} (hne : row ≠ [])
    (hcells : ∀ cell ∈ row, cell ≠ .float .nan)
    (h : join delimiter (row.map (fieldText delimiter)) = "") : row = [.missing] := by
  have hlist : (join delimiter (row.map (fieldText delimiter))).toList = [] := by rw [h]; rfl
  rw [toList_join] at hlist
  match row with
  | [] => exact absurd rfl hne
  | [cell] =>
    rw [List.map_singleton, List.map_singleton, List.intercalate_singleton] at hlist
    rw [eq_missing_of_fieldText (hcells cell (List.mem_singleton_self cell))
      (String.toList_eq_nil_iff.mp hlist)]
  | first :: second :: rest =>
    rw [List.map_cons, List.map_cons, List.map_cons, List.map_cons, List.intercalate_cons_cons,
      List.append_eq_nil_iff, List.append_eq_nil_iff] at hlist
    exact absurd hlist.1.2 (List.cons_ne_nil _ _)

/-- With the delimiter between them, the parts of a row are its line. -/
theorem intercalate_rowParts {delimiter : Char} {row : Row} (hne : row ≠ [])
    (hcells : ∀ cell ∈ row, cell ≠ .float .nan) :
    [delimiter].intercalate (rowParts delimiter row) = (rowText delimiter row).toList := by
  rw [rowText, rowParts]
  split
  · rename_i hrow
    rw [hrow, if_pos (show join delimiter ([Cell.missing].map (fieldText delimiter)) = "" from rfl),
      intercalate_pieces]
  · rename_i hrow
    rw [if_neg fun hempty => hrow (eq_missing_of_join hne hcells hempty), toList_join,
      List.flatMap_def, ← intercalate_flatten, List.map_map, List.map_map]
    · congr 1
      exact List.map_congr_left fun cell _ => intercalate_parts delimiter cell
    · intro ps hps
      obtain ⟨cell, -, rfl⟩ := List.mem_map.mp hps
      exact parts_ne_nil delimiter cell

/-- The line of a row is read as the fields of the row. -/
theorem lineSpells_rowText {delimiter : Char} {row : Row} (hnewline : delimiter ≠ '\n')
    (hquote : 1 < row.length → delimiter ≠ '"') (hne : row ≠ [])
    (hcells : ∀ cell ∈ row, cell ≠ .float .nan) :
    LineSpells delimiter (rowText delimiter row).toList (rowFields delimiter row) := by
  have hspells : List.Forall₂ (FieldSpells delimiter) (rowParts delimiter row)
      (rowFields delimiter row) := fieldSpells_rowParts hcells
  have hlength : (rowParts delimiter row).length
      = row.length + (bareRow row).count delimiter := by
    rw [hspells.length_eq, length_rowFields]
  have hparts : rowParts delimiter row ≠ [] := by
    rw [← List.length_pos_iff, hlength]
    have hpos := List.length_pos_iff.mpr hne
    omega
  rw [← intercalate_rowParts hne hcells]
  refine lineSpells_intercalate hnewline hspells hparts ?_ (rowFields_ne_blank hne hcells)
  rintro hmany rfl
  -- a quote is never written bare, so it cuts nothing
  have hnone : '"' ∉ bareRow row := fun hmem => by
    have hplain := isPlain_of_mem_bareRow hcells hmem
    revert hplain
    decide
  rw [hlength, List.count_eq_zero.mpr hnone] at hmany
  exact hquote hmany rfl

/-! ## Tables -/

/-- The fields that the line of the names is read as. -/
def headerFields (delimiter : Char) (t : Table) : List Field :=
  t.columns.map fun column => ⟨column.name, needsQuotes delimiter column.name⟩

/-- Each name is read as a field. -/
theorem fieldSpells_header (delimiter : Char) (t : Table) :
    List.Forall₂ (FieldSpells delimiter)
      ((t.columns.map fun column => escape delimiter column.name).map String.toList)
      (headerFields delimiter t) := by
  rw [headerFields, List.map_map, List.forall₂_map_left_iff, List.forall₂_map_right_iff,
    List.forall₂_same]
  exact fun column _ => fieldSpells_escape delimiter column.name

theorem lineSpells_headerText {delimiter : Char} {t : Table} (hnewline : delimiter ≠ '\n')
    (hquote : 1 < t.columns.length → delimiter ≠ '"') (hne : t.columns ≠ []) :
    LineSpells delimiter (headerText delimiter t).toList (headerFields delimiter t) := by
  rw [headerText, toList_join]
  refine lineSpells_intercalate hnewline (fieldSpells_header delimiter t) (by simpa using hne)
    (by simpa using hquote) ?_
  intro hblank
  obtain ⟨column, -, hfield⟩ := List.map_eq_singleton_iff.mp hblank
  obtain ⟨hname, hquotes⟩ := Field.mk.inj hfield
  rw [hname, needsQuotes_empty] at hquotes
  cases hquotes

theorem toList_write {delimiter : Char} {t : Table} (hcolumns : t.columns ≠ []) :
    (write delimiter t).toList
      = ((headerText delimiter t :: t.rows.map (rowText delimiter)).map String.toList).flatMap
          (· ++ ['\n']) := by
  rw [write, if_neg (by simpa using hcolumns), String.toList_join, List.flatMap_map,
    List.flatMap_map]
  simp only [String.toList_append]
  rfl

/-- A written table is read as a record of its names and a record for each row, unless the
delimiter is a line feed, or a quote that stands between fields. -/
theorem records_write {delimiter : Char} {t : Table} (hnewline : delimiter ≠ '\n')
    (hquote : 1 < t.columns.length → delimiter ≠ '"') (hcolumns : t.columns ≠ [])
    (hrows : ∀ row ∈ t.rows, row.length = t.columns.length)
    (hcells : ∀ row ∈ t.rows, ∀ cell ∈ row, cell ≠ .float .nan) :
    ∃ rs, records delimiter (write delimiter t) = .ok rs ∧
      rs.map Record.fields = headerFields delimiter t :: t.rows.map (rowFields delimiter) := by
  have hlines : List.Forall₂ (LineSpells delimiter)
      ((headerText delimiter t :: t.rows.map (rowText delimiter)).map String.toList)
      (headerFields delimiter t :: t.rows.map (rowFields delimiter)) := by
    refine .cons (lineSpells_headerText hnewline hquote hcolumns) ?_
    rw [List.map_map, List.forall₂_map_left_iff, List.forall₂_map_right_iff, List.forall₂_same]
    intro row hrow
    have hlength := hrows row hrow
    have hne : row ≠ [] := by
      rw [← List.length_pos_iff, hlength, List.length_pos_iff]
      exact hcolumns
    exact lineSpells_rowText hnewline (hlength ▸ hquote) hne (hcells row hrow)
  obtain ⟨rs, hfields, hscan⟩ := exists_records_of_lineSpells hlines 1
  exact ⟨rs, by rw [records, toList_write hcolumns, hscan], hfields⟩

end Delimited
end TableShell
