import TableShell.Proofs.Effect.Spared

/-!
# Columns that get more cells

In memory, a column keeps its type when rows are appended (`getElem?_columns_append`). Its cells
stay in their order, and behind them stand the appended ones (`cellsAt_append`), each of which is a
given text cast to the type of the column, or the default of that type (`mem_appendedAt`).
-/

namespace TableShell

/-- The command appends rows. -/
def Command.Appends : Command → Prop
  | .add _ | .addBatch _ _ => True
  | _ => False

namespace Table

open Delimited

variable {t : Table} {columns : OrderedMap (List String)} {rowCount j : ℕ} {column : Column}

/-- A command that appends rows is carried out over every table. -/
theorem apply_of_appends {command : Command} (h : command.Appends) {applied : Applied}
    (happly : t.apply command = .ok applied) :
    ∃ columns rowCount, applied.changed = some (t.append columns rowCount) := by
  cases command with
  | add values =>
    cases happly
    exact ⟨_, 1, rfl⟩
  | addBatch columns rowCount =>
    cases happly
    exact ⟨columns, rowCount, rfl⟩
  | _ => exact absurd h id

/-! ## Types -/

/-- Settling looks only for types that are unknown. -/
theorem getElem?_columns_settleTypes (hcolumn : t.columns[j]? = some column)
    (htype : column.type ≠ .unknown) : t.settleTypes.columns[j]? = some column := by
  unfold settleTypes
  split
  · exact hcolumn
  · show (t.columns.mapIdx t.settleColumn)[j]? = some column
    rw [List.getElem?_mapIdx, hcolumn, Option.map_some, settleColumn, if_neg htype]

/-- A type that is known does not change. -/
theorem getElem?_columns_append (hcolumn : t.columns[j]? = some column)
    (htype : column.type ≠ .unknown) : (t.append columns rowCount).columns[j]? = some column := by
  have hready := (readies_prepareEntries t columns.entries).known hcolumn htype
  unfold append
  exact getElem?_columns_settleTypes hready htype

/-! ## Cells -/

/-- The cells of a column of `t'` that stand in rows behind those of `t`. -/
def appendedAt (t t' : Table) (j : ℕ) : List Cell :=
  (t'.rows.drop t.rows.length).filterMap fun row => row[j]?

theorem cellsAt_append (hwidth : ∀ row ∈ t.rows, j < row.length) :
    (t.append columns rowCount).cellsAt j
      = t.cellsAt j ++ appendedAt t (t.append columns rowCount) j := by
  have hextends := extends_append t columns rowCount
  have hlength := length_rows_append t columns rowCount
  -- of the longer table, only its length and that every old cell stays in place is used
  generalize t.append columns rowCount = t' at hextends hlength
  have hold : (t'.rows.take t.rows.length).map (fun row => row[j]?)
      = t.rows.map (fun row => row[j]?) := by
    apply List.ext_getElem?
    intro i
    rw [List.getElem?_map, List.getElem?_map]
    by_cases hi : i < t.rows.length
    · have hj := hwidth _ (List.getElem_mem hi)
      have hcell : cellAt? t i j = some t.rows[i][j] := by
        rw [cellAt?_eq_some_iff]
        exact ⟨_, List.getElem?_eq_getElem hi, List.getElem?_eq_getElem hj⟩
      obtain ⟨row, hrow, hcell'⟩ := cellAt?_eq_some_iff.mp (hextends i j _ hcell)
      rw [List.getElem?_take_of_lt hi, hrow, List.getElem?_eq_getElem hi, Option.map_some,
        Option.map_some, hcell', List.getElem?_eq_getElem hj]
    · have htake : (t'.rows.take t.rows.length)[i]? = none := by
        rw [List.getElem?_eq_none_iff, List.length_take]
        omega
      rw [htake, List.getElem?_eq_none (by omega)]
  have hcells : (t'.rows.take t.rows.length).filterMap (fun row => row[j]?) = t.cellsAt j := by
    have hsame := congrArg (List.filterMap id) hold
    rwa [List.filterMap_map, List.filterMap_map] at hsame
  rw [appendedAt, ← hcells, ← List.filterMap_append, List.take_append_drop, cellsAt]

/-- The rows behind those that were there are the new ones. -/
theorem drop_rows_append (t : Table) (columns : OrderedMap (List String)) (rowCount : ℕ) :
    (t.append columns rowCount).rows.drop t.rows.length
      = (List.range rowCount).map ((prepareEntries t columns.entries).newRow
          (t.columns.map fun column => column.type.defaultCell) columns) := by
  have hlength := length_rows_prepareEntries t columns.entries
  unfold append
  rw [rows_settleTypes]
  exact List.drop_left' hlength

/-- An appended cell is a text that was cast to the type of its column, or the default. -/
theorem mem_appendedAt (hcolumn : t.columns[j]? = some column) (htype : column.type ≠ .unknown)
    {cell : Cell} (hcell : cell ∈ appendedAt t (t.append columns rowCount) j) :
    (∃ s, cell = Cell.cast s column.type) ∨ cell = column.type.defaultCell := by
  have hready := (readies_prepareEntries t columns.entries).known hcolumn htype
  rw [appendedAt, drop_rows_append] at hcell
  obtain ⟨row, hrow, hcell⟩ := List.mem_filterMap.mp hcell
  obtain ⟨i, -, rfl⟩ := List.mem_map.mp hrow
  rw [newRow, List.getElem?_mapIdx, hready, Option.map_some] at hcell
  cases hcell
  split
  · exact Or.inl ⟨_, rfl⟩
  · right
    rw [List.getElem?_map, hcolumn]
    rfl

end Table
end TableShell
