import TableShell.Effect
import TableShell.Proofs.Table.Columns

/-!
# Commands on selected rows

What it means that a deletion or an update was carried out on the rows that a mask selects, row by
row: `Removes` and `Rewrites`. `removes_remove` and `rewrites_assign` show it of the steps that the
commands take.
-/

namespace TableShell
namespace Table

/-! ## Deletion -/

/-- The rows that the mask selects are gone; the others are as they were, in the same order. -/
structure Removes (t t' : Table) (mask : List Bool) : Prop where
  columns_eq : t'.columns = t.columns
  rows_eq : t'.rows = ((t.rows.zip mask).filter fun entry => !entry.2).map Prod.fst

theorem unselected_eq {rows : List Row} {mask : List Bool} (h : mask.length = rows.length) :
    unselected rows mask = ((rows.zip mask).filter fun entry => !entry.2).map Prod.fst := by
  induction rows generalizing mask with
  | nil => rw [unselected.eq_def, List.zip_nil_left]; rfl
  | cons row rows ih =>
    cases mask with
    | nil => cases h
    | cons selected mask =>
      rw [unselected, ih (Nat.succ.inj h)]
      cases selected <;> rfl

theorem removes_remove {t : Table} {mask : List Bool} (h : mask.length = t.rows.length) :
    Removes t (t.remove mask) mask :=
  ⟨rfl, unselected_eq h⟩

/-- Without selected rows, all stay. -/
theorem removes_self {t : Table} {mask : List Bool} (hlength : mask.length = t.rows.length)
    (h : true ∉ mask) : Removes t t mask := by
  refine ⟨rfl, ?_⟩
  have hall : (t.rows.zip mask).filter (fun entry => !entry.2) = t.rows.zip mask := by
    rw [List.filter_eq_self]
    intro entry hentry
    have hmem : entry.2 ∈ mask := (List.of_mem_zip hentry).2
    cases hselected : entry.2 with
    | false => rfl
    | true => exact absurd (hselected ▸ hmem) h
  rw [hall, List.map_fst_zip (Nat.le_of_eq hlength.symm)]

/-! ## Update -/

/-- The row with the text cast into the cell under the column of its name. -/
def writeCell (t : Table) (row : Row) (entry : String × String) : Row :=
  match t.columnIndex? entry.1 with
  | some index =>
    row.set index (Cell.cast entry.2 ((t.columns[index]?.map Column.type).getD .unknown))
  | none => row

/-- The row with all the texts cast into the cells under their columns. -/
def writeCells (t : Table) (assignments : List (String × String)) (row : Row) : Row :=
  assignments.foldl t.writeCell row

/-- The row of `t` with missing cells under the columns that `t'` has more. -/
def widenRow (t t' : Table) (row : Row) : Row :=
  row ++ List.replicate (t'.columns.length - t.columns.length) .missing

/-- The rows that the mask selects hold the assigned texts, cast to the types of their columns; the
others are as they were, but for missing cells under new columns. -/
structure Rewrites (t t' : Table) (mask : List Bool) (assignments : List (String × String)) :
    Prop where
  widens : Widens t t'
  assigned : true ∈ mask → ∀ entry ∈ assignments, entry.1 ∈ t'.columnNames
  length_rows : t'.rows.length = t.rows.length
  unselected : ∀ {i : ℕ} {row : Row}, t.rows[i]? = some row → mask[i]? ≠ some true →
    t'.rows[i]? = some (widenRow t t' row)
  selected : ∀ {i : ℕ} {row : Row}, t.rows[i]? = some row → mask[i]? = some true →
    row.length = t.columns.length →
    t'.rows[i]? = some (t'.writeCells assignments (widenRow t t' row))

theorem widenRow_self (t : Table) (row : Row) : widenRow t t row = row := by
  rw [widenRow, Nat.sub_self, List.replicate_zero, List.append_nil]

theorem widenRow_trans {t t' t'' : Table} (h : Widens t t') (h' : Widens t' t'') (row : Row) :
    widenRow t' t'' (widenRow t t' row) = widenRow t t'' row := by
  have hle := h.length_le
  have hle' := h'.length_le
  rw [widenRow, widenRow, widenRow, List.append_assoc, List.replicate_append_replicate]
  congr 2
  omega

theorem length_widenRow {t t' : Table} (h : Widens t t') {row : Row}
    (hrow : row.length = t.columns.length) : (widenRow t t' row).length = t'.columns.length := by
  have hle := h.length_le
  rw [widenRow, List.length_append, List.length_replicate]
  omega

theorem length_writeCell (t : Table) (row : Row) (entry : String × String) :
    (t.writeCell row entry).length = row.length := by
  rw [writeCell]
  split
  · exact List.length_set
  · rfl

theorem length_writeCells (t : Table) (assignments : List (String × String)) (row : Row) :
    (t.writeCells assignments row).length = row.length := by
  rw [writeCells]
  induction assignments generalizing row with
  | nil => rfl
  | cons entry assignments ih => rw [List.foldl_cons, ih, length_writeCell]

/-- A cell may be written before or after the row is widened. -/
theorem widenRow_writeCell {t t' : Table} (h : Widens t t') {row : Row}
    (hrow : row.length = t.columns.length) {entry : String × String}
    (hentry : entry.1 ∈ t.columnNames) :
    widenRow t t' (t.writeCell row entry) = t'.writeCell (widenRow t t' row) entry := by
  cases hindex : t.columnIndex? entry.1 with
  | none => exact absurd hentry (columnIndex?_eq_none_iff.mp hindex)
  | some index =>
    have hlt := columnIndex?_lt hindex
    simp only [writeCell, hindex, h.columnIndex?_eq hindex, h.getElem?_columns hlt, widenRow]
    rw [List.set_append_left _ _ (by omega)]

theorem widenRow_writeCells {t t' : Table} (h : Widens t t') {assignments : List (String × String)}
    (hassigned : ∀ entry ∈ assignments, entry.1 ∈ t.columnNames) {row : Row}
    (hrow : row.length = t.columns.length) :
    widenRow t t' (t.writeCells assignments row)
      = t'.writeCells assignments (widenRow t t' row) := by
  rw [writeCells, writeCells]
  induction assignments generalizing row with
  | nil => rfl
  | cons entry assignments ih =>
    rw [List.forall_mem_cons] at hassigned
    rw [List.foldl_cons, List.foldl_cons, ← widenRow_writeCell h hrow hassigned.1]
    exact ih hassigned.2 (by rw [length_writeCell, hrow])

/-- Without selected rows, an update that adds no column changes nothing. -/
theorem rewrites_self {t : Table} {mask : List Bool} (assignments : List (String × String))
    (h : true ∉ mask) : Rewrites t t mask assignments where
  widens := Widens.refl t
  assigned hmem := absurd hmem h
  length_rows := rfl
  unselected hrow _ := by rw [hrow, widenRow_self]
  selected _ hselected _ := absurd (List.mem_of_getElem? hselected) h

/-- Updates of the same rows may be carried out one after the other. -/
theorem Rewrites.trans {t t' t'' : Table} {mask : List Bool}
    {assignments assignments' : List (String × String)} (h : Rewrites t t' mask assignments)
    (h' : Rewrites t' t'' mask assignments') :
    Rewrites t t'' mask (assignments ++ assignments') where
  widens := h.widens.trans h'.widens
  assigned hmem entry hentry := by
    rcases List.mem_append.mp hentry with hfirst | hsecond
    · exact h'.widens.columnNames_subset (h.assigned hmem entry hfirst)
    · exact h'.assigned hmem entry hsecond
  length_rows := h'.length_rows.trans h.length_rows
  unselected hrow hmask := by
    rw [h'.unselected (h.unselected hrow hmask) hmask, widenRow_trans h.widens h'.widens]
  selected {i row} hrow hmask hwidth := by
    have hwidth' := length_widenRow h.widens hwidth
    have hassigned := h.assigned (List.mem_of_getElem? hmask)
    rw [h'.selected (h.selected hrow hmask hwidth) hmask (by rw [length_writeCells, hwidth']),
      widenRow_writeCells h'.widens hassigned hwidth', widenRow_trans h.widens h'.widens,
      writeCells, writeCells, writeCells, List.foldl_append]

/-! ## The steps of the commands -/

theorem getElem?_mapSelected (f : Row → Row) (rows : List Row) (mask : List Bool) (i : ℕ) :
    (mapSelected f rows mask)[i]?
      = rows[i]?.map fun row => if mask[i]? = some true then f row else row := by
  induction rows generalizing mask i with
  | nil => rw [mapSelected.eq_def]; rfl
  | cons row rows ih =>
    cases mask with
    | nil => simp [mapSelected]
    | cons selected mask =>
      rw [mapSelected]
      cases i with
      | zero => cases selected <;> rfl
      | succ i => exact ih mask i

theorem length_mapSelected (f : Row → Row) (rows : List Row) (mask : List Bool) :
    (mapSelected f rows mask).length = rows.length := by
  induction rows generalizing mask with
  | nil => rw [mapSelected.eq_def]
  | cons row rows ih =>
    cases mask with
    | nil => rfl
    | cons selected mask => rw [mapSelected, List.length_cons, ih, List.length_cons]

/-- Adding a column widens the rows and does nothing else to them. -/
theorem rows_addColumn (t : Table) (name : String) (type : ColumnType) :
    (t.addColumn name type).rows = t.rows.map (widenRow t (t.addColumn name type)) := by
  rw [addColumn]
  split
  · have hself : widenRow t t = id := funext (widenRow_self t)
    rw [hself, List.map_id]
  · refine List.map_congr_left fun row _ => ?_
    simp [widenRow]

/-- The rows after one text was written: widened, and with the cell where selected. -/
theorem getElem?_rows_assignColumn {mask : List Bool} {t : Table} (entry : String × String)
    {i : ℕ} {row : Row} (hrow : t.rows[i]? = some row) :
    let t' := assignColumn mask t entry.1 entry.2
    t'.rows[i]? = some (if mask[i]? = some true then t'.writeCell (widenRow t t' row) entry
      else widenRow t t' row) := by
  intro t'
  have hindex : t'.columnIndex? entry.1 = some (t.indexForColumn entry.1) :=
    columnIndex?_addColumn t entry.1 (Cell.inferType [entry.2])
  have hrows : t'.rows = mapSelected
      (·.set (t.indexForColumn entry.1) (Cell.cast entry.2
        ((t'.columns[t.indexForColumn entry.1]?.map Column.type).getD .unknown)))
      (t.addColumn entry.1 (Cell.inferType [entry.2])).rows mask := rfl
  simp only [writeCell, hindex]
  rw [hrows, getElem?_mapSelected, rows_addColumn, List.getElem?_map, hrow]
  rfl

/-- Writing one text rewrites the selected rows. -/
theorem rewrites_assignColumn (mask : List Bool) (t : Table) (entry : String × String) :
    Rewrites t (assignColumn mask t entry.1 entry.2) mask [entry] where
  widens := widens_addColumn t entry.1 _
  assigned := by
    intro _
    rw [List.forall_mem_singleton]
    have hindex := columnIndex?_addColumn t entry.1 (Cell.inferType [entry.2])
    exact List.mem_of_getElem? (getElem?_of_lastIndex? hindex)
  length_rows := by
    rw [assignColumn, length_mapSelected, rows_addColumn, List.length_map]
  unselected hrow hmask := by
    rw [getElem?_rows_assignColumn entry hrow, if_neg hmask]
  selected hrow hmask _ := by
    rw [getElem?_rows_assignColumn entry hrow, if_pos hmask]
    rfl

/-- Without texts, nothing is rewritten. -/
theorem rewrites_nil (t : Table) (mask : List Bool) : Rewrites t t mask [] where
  widens := Widens.refl t
  assigned _ := by simp
  length_rows := rfl
  unselected hrow _ := by rw [hrow, widenRow_self]
  selected hrow _ _ := by rw [hrow, widenRow_self]; rfl

/-- Writing the texts one by one rewrites the selected rows. -/
theorem rewrites_assign (mask : List Bool) (t : Table) (assignments : Assignments) :
    Rewrites t (assign mask t assignments) mask assignments.entries := by
  rw [assign]
  induction assignments.entries generalizing t with
  | nil => exact rewrites_nil t mask
  | cons entry entries ih =>
    rw [List.foldl_cons]
    exact (rewrites_assignColumn mask t entry).trans (ih _)

end Table
end TableShell
