import TableShell.Proofs.Effect.Spared
import TableShell.Proofs.Table.NewColumns
import TableShell.Proofs.Table.WellFormed

/-!
# The table after rows were changed

`Table.update` selects rows once, and then writes one text after the other into them, each into a
column that it adds if there is none. The table after that is `rewritten`, which says of each column
and each cell at once what it is (`update_eq_rewritten`). It looks at the conditions on the table
before the command only, so what is written to a column that a condition tests does not matter.
-/

namespace TableShell
namespace Table

/-! ## Selected rows -/

instance (t : Table) (column condition : String) (i : ℕ) :
    Decidable (t.Selects column condition i) :=
  match h : t.selection? column condition with
  | some mask => decidable_of_iff (mask[i]? = some true) (selects_iff_of_selection? h i).symm
  | none => isFalse fun ⟨mask, hmask, _⟩ => by rw [h] at hmask; cases hmask

instance (t : Table) (conditions : Conditions) (i : ℕ) :
    Decidable (t.SelectedByAll conditions i) :=
  inferInstanceAs (Decidable (∀ entry ∈ conditions.entries, t.Selects entry.1 entry.2 i))

/-- How many rows satisfy all the conditions. -/
def selectedCount (t : Table) (conditions : Conditions) : ℕ :=
  (List.range t.rows.length).countP fun i => t.SelectedByAll conditions i

/-- The column that an assigned text creates. -/
def assignedColumn (entry : String × String) : Column :=
  ⟨entry.1, Cell.inferType [entry.2]⟩

/-- The cell under a column in a selected row: the assigned text, if there is one. -/
def assignedCell (assignments : Assignments) (column : Column) (cell : Cell) : Cell :=
  match assignments.get? column.name with
  | some text => Cell.cast text column.type
  | none => cell

/-- The table with rows changed, column by column and cell by cell. -/
def rewritten (t : Table) (conditions : Conditions) (assignments : Assignments) : Table :=
  let added := t.newEntries assignments.entries
  let columns := t.columns ++ added.map assignedColumn
  { columns
    rows := t.rows.mapIdx fun i row =>
      let widened := row ++ List.replicate added.length .missing
      if t.SelectedByAll conditions i then
        List.zipWith (assignedCell assignments) columns widened
      else
        widened }

variable {t : Table} {conditions : Conditions} {assignments : Assignments} {mask : List Bool}

/-- The conditions have a mask, which sets as many rows as satisfy them all. -/
theorem exists_isMaskOf (t : Table) (conditions : Conditions) :
    ∃ mask, t.IsMaskOf conditions mask ∧ mask.count true = t.selectedCount conditions := by
  refine ⟨(List.range t.rows.length).map fun i => decide (t.SelectedByAll conditions i),
    ⟨by simp, fun i hi => ?_⟩, ?_⟩
  · rw [List.getElem?_map, List.getElem?_range hi, Option.map_some, Option.some_inj,
      decide_eq_true_iff]
    rfl
  · rw [List.count_eq_countP, List.countP_map, selectedCount]
    refine List.countP_congr fun i _ => ?_
    simp

/-! ## Columns that are assigned -/

theorem columns_assignColumn (mask : List Bool) (t : Table) (entry : String × String) :
    (assignColumn mask t entry.1 entry.2).columns
      = t.columns ++ (t.newEntries [entry]).map assignedColumn := by
  show (t.addColumn entry.1 (Cell.inferType [entry.2])).columns = _
  rw [addColumn_entry t entry]
  refine congrArg (t.columns ++ ·) (List.map_congr_left fun new hnew => ?_)
  obtain rfl := List.mem_singleton.mp (mem_newEntries.mp hnew).1
  rfl

/-- The columns that are new stand behind the others, in the order of the assignments. -/
theorem columns_assign (mask : List Bool) (t : Table) (assignments : Assignments) :
    (assign mask t assignments).columns
      = t.columns ++ (t.newEntries assignments.entries).map assignedColumn := by
  have hkeys := assignments.nodup_keys
  rw [assign]
  generalize assignments.entries = entries at hkeys
  induction entries generalizing t with
  | nil => simp [newEntries]
  | cons entry entries ih =>
    rw [List.map_cons, List.nodup_cons] at hkeys
    have hfirst := columns_assignColumn mask t entry
    have hnames : (assignColumn mask t entry.1 entry.2).columnNames
        = t.columnNames ++ (t.newEntries [entry]).map Prod.fst := by
      rw [columnNames, hfirst, List.map_append, List.map_map]
      rfl
    rw [List.foldl_cons, ih _ hkeys.2, hfirst, newEntries_cons hkeys.1 hnames, List.map_append,
      List.append_assoc]

/-! ## Cells that are written -/

/-- Where names are distinct, the text of a column is written into its cell. -/
theorem getElem?_writeCell_self (hnames : t.columnNames.Nodup) {row : Row} {j : ℕ} {column : Column}
    (hcolumn : t.columns[j]? = some column) (hj : j < row.length) (text : String) :
    (t.writeCell row (column.name, text))[j]? = some (Cell.cast text column.type) := by
  simp only [writeCell, columnIndex?_of_getElem? hnames hcolumn, hcolumn]
  exact List.getElem?_set_self hj

/-- After all texts are written, each cell holds that of its column, if there is one. -/
theorem getElem?_writeCells_lookup (hnames : t.columnNames.Nodup)
    {entries : List (String × String)} (hkeys : (entries.map Prod.fst).Nodup) {row : Row} {j : ℕ}
    {column : Column} {cell : Cell} (hcolumn : t.columns[j]? = some column)
    (hcell : row[j]? = some cell) :
    (t.writeCells entries row)[j]? = some (match entries.lookup column.name with
      | some text => Cell.cast text column.type
      | none => cell) := by
  have hname : t.columnNames[j]? = some column.name := by
    rw [columnNames, List.getElem?_map, hcolumn]
    rfl
  induction entries generalizing row cell with
  | nil => exact hcell
  | cons entry entries ih =>
    obtain ⟨key, text⟩ := entry
    rw [List.map_cons, List.nodup_cons] at hkeys
    have hstep : t.writeCells ((key, text) :: entries) row
        = t.writeCells entries (t.writeCell row (key, text)) := rfl
    rw [hstep]
    by_cases hkey : key = column.name
    · -- no later text is written to this cell
      subst hkey
      have hlater : ∀ entry ∈ entries, t.columnNames[j]? ≠ some entry.1 := by
        intro entry hentry hsame
        rw [hname, Option.some_inj] at hsame
        have hmem : entry.1 ∈ entries.map Prod.fst := List.mem_map_of_mem hentry
        exact hkeys.1 (hsame ▸ hmem)
      have hj := (List.getElem?_eq_some_iff.mp hcell).1
      rw [getElem?_writeCells hlater, getElem?_writeCell_self hnames hcolumn hj,
        List.lookup_cons_self]
    · have hother : t.columnNames[j]? ≠ some key := by
        rw [hname]
        exact fun hsame => hkey (Option.some.inj hsame).symm
      rw [ih hkeys.2 (by rw [getElem?_writeCell hother, hcell]), List.lookup_cons]
      have hne : (column.name == key) = false := beq_false_of_ne (Ne.symm hkey)
      rw [hne]

/-- Writing all texts into a row is done cell by cell. -/
theorem writeCells_eq_zipWith (hnames : t.columnNames.Nodup) (assignments : Assignments) {row : Row}
    (hrow : row.length = t.columns.length) :
    t.writeCells assignments.entries row
      = List.zipWith (assignedCell assignments) t.columns row := by
  apply List.ext_getElem?
  intro j
  rcases Nat.lt_or_ge j row.length with hj | hj
  · have hcell := List.getElem?_eq_getElem hj
    have hcolumn := List.getElem?_eq_getElem (hrow ▸ hj)
    rw [getElem?_writeCells_lookup hnames assignments.nodup_keys hcolumn hcell,
      List.getElem?_zipWith, hcolumn, hcell]
    rfl
  · rw [List.getElem?_eq_none (by rwa [length_writeCells]),
      List.getElem?_eq_none (by simp [← hrow, hj])]

/-! ## The whole command -/

/-- In a well formed table, the rows after the texts are written are the widened ones, and those
that the mask selects hold the texts. -/
theorem getElem?_rows_assign (h : t.WellFormed) (hmask : t.IsMaskOf conditions mask) {i : ℕ}
    {row : Row} (hrow : t.rows[i]? = some row) :
    (assign mask t assignments).rows[i]? = (t.rewritten conditions assignments).rows[i]? := by
  have hrewrites := rewrites_assign mask t assignments
  have hcolumns := columns_assign mask t assignments
  have hnames := (h.assign mask assignments).nodup_names
  have hi := (List.getElem?_eq_some_iff.mp hrow).1
  have hwidth := (h.rows_fit row (List.mem_of_getElem? hrow)).1
  have hwidened : widenRow t (assign mask t assignments) row
      = row ++ List.replicate (t.newEntries assignments.entries).length .missing := by
    rw [widenRow, hcolumns, List.length_append, List.length_map, Nat.add_sub_cancel_left]
  simp only [rewritten, List.getElem?_mapIdx, hrow, Option.map_some]
  by_cases hselected : t.SelectedByAll conditions i
  · have hlength := length_widenRow hrewrites.widens hwidth
    rw [if_pos hselected, hrewrites.selected hrow ((hmask.2 i hi).mpr hselected) hwidth,
      writeCells_eq_zipWith hnames assignments hlength, hcolumns, hwidened]
  · have hclear : mask[i]? ≠ some true := fun hset => hselected ((hmask.2 i hi).mp hset)
    rw [if_neg hselected, hrewrites.unselected hrow hclear, hwidened]

/-- Of a well formed table, writing the texts gives the table that `rewritten` describes. -/
theorem assign_eq_rewritten (h : t.WellFormed) (hmask : t.IsMaskOf conditions mask)
    (assignments : Assignments) :
    assign mask t assignments = t.rewritten conditions assignments := by
  have hrows : (assign mask t assignments).rows = (t.rewritten conditions assignments).rows := by
    apply List.ext_getElem?
    intro i
    cases hrow : t.rows[i]? with
    | some row => exact getElem?_rows_assign h hmask hrow
    | none =>
      have hlength := (rewrites_assign mask t assignments).length_rows
      rw [List.getElem?_eq_none_iff] at hrow
      rw [List.getElem?_eq_none (by omega), List.getElem?_eq_none]
      rwa [rewritten, List.length_mapIdx]
  exact congrArg₂ Table.mk (columns_assign mask t assignments) hrows

/-- An update of rows that are selected is carried out. -/
theorem update_of_isMaskOf (hmask : t.IsMaskOf conditions mask) (hmatched : mask.count true ≠ 0)
    (assignments : Assignments) :
    ∃ message, t.update conditions assignments
      = .ok (.write message (mask.count true) (assign mask t assignments)) := by
  unfold update
  rw [isEmpty_rows_of_count hmask hmatched, if_neg Bool.false_ne_true,
    selectAll_of_isMaskOf hmask hmatched]
  exact ⟨_, if_neg hmatched⟩

/-- Where some row of a well formed table satisfies all the conditions, the update is carried out,
reports how many rows do, and gives the table that `rewritten` describes. -/
theorem update_eq_rewritten (h : t.WellFormed)
    (hselected : ∃ i < t.rows.length, t.SelectedByAll conditions i) (assignments : Assignments) :
    ∃ message, t.apply (.update conditions assignments)
      = .ok (.write message (t.selectedCount conditions) (t.rewritten conditions assignments)) := by
  obtain ⟨mask, hmask, hcount⟩ := exists_isMaskOf t conditions
  have hmatched : mask.count true ≠ 0 := by
    obtain ⟨i, hi, hall⟩ := hselected
    rw [hcount, selectedCount, ← Nat.pos_iff_ne_zero, List.countP_pos_iff]
    exact ⟨i, List.mem_range.mpr hi, decide_eq_true hall⟩
  rw [← assign_eq_rewritten h hmask assignments, ← hcount]
  exact update_of_isMaskOf hmask hmatched assignments

/-- A table of two people of one name, and a third. -/
def threePeople : Table :=
  ⟨[⟨"name", .text⟩, ⟨"age", .integer⟩],
    [[.text "Ann", .integer 30], [.text "Bob", .missing], [.text "Ann", .missing]]⟩

theorem wellFormed_threePeople : threePeople.WellFormed where
  nodup_names := by decide
  rows_fit := by
    unfold threePeople RowFits CellFits
    decide
  types_known := by decide

/-- The condition tests the column that is assigned first, and yet selects for all the others. -/
theorem update_eq_rewritten_threePeople :
    let conditions : Conditions := .ofList [("name", "Ann")]
    let assignments : Assignments := .ofList [("name", "Eve"), ("city", "Bern"), ("age", "old")]
    threePeople.WellFormed ∧
      (∃ i < threePeople.rows.length, threePeople.SelectedByAll conditions i) ∧
      ∃ message, threePeople.apply (.update conditions assignments)
        = .ok (.write message 2
          ⟨[⟨"name", .text⟩, ⟨"age", .integer⟩, ⟨"city", .text⟩],
            [[.text "Eve", .text "old", .text "Bern"], [.text "Bob", .missing, .missing],
              [.text "Eve", .text "old", .text "Bern"]]⟩) := by
  intro conditions assignments
  have hselected : ∃ i < threePeople.rows.length, threePeople.SelectedByAll conditions i :=
    ⟨0, by decide, by decide +kernel⟩
  have hcount : threePeople.selectedCount conditions = 2 := by decide +kernel
  have hrewritten : threePeople.rewritten conditions assignments
      = ⟨[⟨"name", .text⟩, ⟨"age", .integer⟩, ⟨"city", .text⟩],
        [[.text "Eve", .text "old", .text "Bern"], [.text "Bob", .missing, .missing],
          [.text "Eve", .text "old", .text "Bern"]]⟩ := by decide +kernel
  obtain ⟨message, hmessage⟩ := update_eq_rewritten wellFormed_threePeople hselected assignments
  rw [hcount, hrewritten] at hmessage
  exact ⟨wellFormed_threePeople, hselected, message, hmessage⟩

end Table
end TableShell
