import TableShell.Proofs.Command.Conditions
import TableShell.Proofs.Delimited.Reload
import TableShell.Proofs.Effect.Preparing

/-!
# What a command does not address

A command addresses the rows that it takes out, and the cells that it writes: those in the rows that
satisfy its conditions and in the columns that it assigns. Every other cell of the table is found
again in the table after the command, in the same column, and in the row to which its own has moved
(`cellAt?_of_apply`).
-/

namespace TableShell
namespace Table

open Delimited

/-! ## Spared cells -/

/-- The row of that index satisfies all the conditions. -/
def SelectedByAll (t : Table) (conditions : Conditions) (i : ℕ) : Prop :=
  ∀ entry ∈ conditions.entries, t.Selects entry.1 entry.2 i

/-- The command does not address the cell in row `i` and column `j`, and moves its row to `i'`. -/
def Spares (t : Table) (i j i' : ℕ) : Command → Prop
  | .update conditions assignments => i' = i ∧ ¬ (t.SelectedByAll conditions i ∧
      ∃ entry ∈ assignments.entries, t.columnNames[j]? = some entry.1)
  -- the rows that stay close up
  | .delete conditions _ => ¬ t.SelectedByAll conditions i ∧ ∃ mask, t.IsMaskOf conditions mask ∧
      i' = (mask.take i).count false
  | .deleteAll _ => False
  | _ => i' = i

/-- All cells of `t` are found again in `t'`, in their places. -/
def Extends (t t' : Table) : Prop :=
  ∀ i j cell, cellAt? t i j = some cell → cellAt? t' i j = some cell

theorem Extends.refl (t : Table) : Extends t t := by
  intro i j cell hcell
  exact hcell

theorem Extends.trans {t t' t'' : Table} (h : Extends t t') (h' : Extends t' t'') :
    Extends t t'' := by
  intro i j cell hcell
  exact h' i j cell (h i j cell hcell)

theorem cellAt?_eq_some_iff {t : Table} {i j : ℕ} {cell : Cell} :
    cellAt? t i j = some cell ↔ ∃ row, t.rows[i]? = some row ∧ row[j]? = some cell :=
  Option.bind_eq_some_iff

/-! ## Adding rows -/

theorem extends_of_rows_eq {t t' : Table} (h : t'.rows = t.rows) : Extends t t' := by
  intro i j cell hcell
  rw [cellAt?, h]
  exact hcell

theorem extends_addColumn (t : Table) (name : String) (type : ColumnType) :
    Extends t (t.addColumn name type) := by
  intro i j cell hcell
  obtain ⟨row, hrow, hcell⟩ := cellAt?_eq_some_iff.mp hcell
  have hlt := (List.getElem?_eq_some_iff.mp hcell).1
  rw [cellAt?_eq_some_iff, rows_addColumn, List.getElem?_map, hrow]
  refine ⟨_, rfl, ?_⟩
  rw [widenRow, List.getElem?_append_left hlt, hcell]

theorem extends_prepareColumn (t : Table) (name : String) (texts : List String) :
    Extends t (t.prepareColumn name texts) := by
  unfold prepareColumn
  split
  · split
    · exact extends_of_rows_eq rfl
    · exact Extends.refl t
  · exact extends_addColumn t name _

theorem extends_prepareEntries (t : Table) (entries : List (String × List String)) :
    Extends t (prepareEntries t entries) := by
  induction entries generalizing t with
  | nil => exact Extends.refl t
  | cons entry entries ih => exact (extends_prepareColumn t entry.1 entry.2).trans (ih _)

/-- New rows stand behind the others. -/
theorem extends_append (t : Table) (columns : OrderedMap (List String)) (rowCount : ℕ) :
    Extends t (t.append columns rowCount) := by
  intro i j cell hcell
  have hprepared := extends_prepareEntries t columns.entries i j cell hcell
  obtain ⟨row, hrow, hcell'⟩ := cellAt?_eq_some_iff.mp hprepared
  have hlt := (List.getElem?_eq_some_iff.mp hrow).1
  rw [cellAt?_eq_some_iff, append, rows_settleTypes]
  refine ⟨row, ?_, hcell'⟩
  rw [List.getElem?_append_left]
  · exact hrow
  · exact hlt

/-! ## Changing rows -/

/-- Writing a cell leaves those under other names alone. -/
theorem getElem?_writeCell {t : Table} {row : Row} {entry : String × String} {j : ℕ}
    (h : t.columnNames[j]? ≠ some entry.1) : (t.writeCell row entry)[j]? = row[j]? := by
  unfold writeCell
  split
  · rename_i index hindex
    have hne : index ≠ j := by
      rintro rfl
      exact h (getElem?_of_lastIndex? hindex)
    exact List.getElem?_set_ne hne
  · rfl

theorem getElem?_writeCells {t : Table} {assignments : List (String × String)} {row : Row} {j : ℕ}
    (h : ∀ entry ∈ assignments, t.columnNames[j]? ≠ some entry.1) :
    (t.writeCells assignments row)[j]? = row[j]? := by
  unfold writeCells
  induction assignments generalizing row with
  | nil => rfl
  | cons entry assignments ih =>
    rw [List.forall_mem_cons] at h
    rw [List.foldl_cons, ih h.2, getElem?_writeCell h.1]

/-- An update leaves a cell alone whose row it does not select, or whose column it does not
assign. -/
theorem cellAt?_of_rewrites {t t' : Table} {mask : List Bool}
    {assignments : List (String × String)} (h : Rewrites t t' mask assignments)
    (hwidth : ∀ row ∈ t.rows, row.length = t.columns.length) {i j : ℕ} {cell : Cell}
    (hcell : cellAt? t i j = some cell)
    (hspared : ¬ (mask[i]? = some true ∧ ∃ entry ∈ assignments,
      t.columnNames[j]? = some entry.1)) :
    cellAt? t' i j = some cell := by
  obtain ⟨row, hrow, hcell⟩ := cellAt?_eq_some_iff.mp hcell
  have hlt := (List.getElem?_eq_some_iff.mp hcell).1
  have hrowwidth := hwidth row (List.mem_of_getElem? hrow)
  have hwidened : (widenRow t t' row)[j]? = some cell := by
    rw [widenRow, List.getElem?_append_left hlt, hcell]
  rw [cellAt?_eq_some_iff]
  by_cases hselected : mask[i]? = some true
  · refine ⟨_, h.selected hrow hselected hrowwidth, ?_⟩
    rw [getElem?_writeCells, hwidened]
    -- a column of `t` has the same name in `t'`, so an assigned one was assigned in `t`
    intro entry hentry hname
    refine hspared ⟨hselected, entry, hentry, ?_⟩
    rw [← hname, columnNames, columnNames, List.getElem?_map, List.getElem?_map,
      h.widens.getElem?_columns (by omega)]
  · exact ⟨_, h.unselected hrow hselected, hwidened⟩

/-! ## Removing rows -/

/-- A row that stays moves up by as many rows as are removed before it. -/
theorem getElem?_unselected {rows : List Row} {mask : List Bool} {i : ℕ}
    (h : mask[i]? = some false) :
    (unselected rows mask)[(mask.take i).count false]? = rows[i]? := by
  induction rows generalizing mask i with
  | nil => rw [unselected.eq_def]; rfl
  | cons row rows ih =>
    cases mask with
    | nil => cases h
    | cons selected mask =>
      cases i with
      | zero =>
        cases h
        rfl
      | succ i =>
        have hmask : mask[i]? = some false := h
        have hrest := ih hmask
        rw [unselected, List.take_succ_cons, List.getElem?_cons_succ, ← hrest]
        cases selected with
        | true => rw [if_pos rfl, List.count_cons_of_ne (by decide)]
        | false =>
          rw [if_neg Bool.false_ne_true, List.count_cons_self, List.getElem?_cons_succ]

theorem cellAt?_of_removes {t t' : Table} {mask : List Bool} (h : Removes t t' mask)
    (hlength : mask.length = t.rows.length) {i j : ℕ} (hmask : mask[i]? = some false) :
    cellAt? t' ((mask.take i).count false) j = cellAt? t i j := by
  rw [cellAt?, h.rows_eq, ← unselected_eq hlength, getElem?_unselected hmask]
  rfl

/-! ## Every command -/

/-- A row that does not satisfy all the conditions is not selected. -/
theorem IsMaskOf.eq_false {t : Table} {conditions : Conditions} {mask : List Bool}
    (h : t.IsMaskOf conditions mask) {i : ℕ} (hi : i < t.rows.length)
    (hnot : ¬ t.SelectedByAll conditions i) : mask[i]? = some false := by
  have hlt : i < mask.length := by
    rw [h.1]
    exact hi
  have hiff := h.2 i hi
  rw [List.getElem?_eq_getElem hlt] at hiff ⊢
  cases hbit : mask[i] with
  | false => rfl
  | true =>
    rw [hbit] at hiff
    exact absurd (hiff.mp rfl) hnot

/-- A command leaves the cells alone that it does not address. -/
theorem cellAt?_of_apply {t : Table} {command : Command} {applied : Applied}
    (happly : t.apply command = .ok applied)
    (hwidth : ∀ row ∈ t.rows, row.length = t.columns.length) {i j i' : ℕ} {cell : Cell}
    (hspares : t.Spares i j i' command) (hcell : cellAt? t i j = some cell) :
    cellAt? (applied.changed.getD t) i' j = some cell := by
  obtain ⟨row, hrow, -⟩ := cellAt?_eq_some_iff.mp hcell
  have hi := (List.getElem?_eq_some_iff.mp hrow).1
  cases command with
  | help | clear | list | columns | search keyword =>
    cases happly
    cases hspares
    exact hcell
  | searchExact column condition =>
    obtain ⟨report, -, rfl⟩ := Traversal.map_eq_ok_iff.mp happly
    cases hspares
    exact hcell
  | add values =>
    cases happly
    cases hspares
    exact extends_append t _ 1 i j cell hcell
  | addBatch columns rowCount =>
    cases happly
    cases hspares
    exact extends_append t columns rowCount i j cell hcell
  | update conditions assignments =>
    obtain ⟨mask, hmask, hrewrites⟩ := update_eq_ok happly
    obtain ⟨rfl, hspared⟩ := hspares
    apply cellAt?_of_rewrites hrewrites hwidth hcell
    rintro ⟨hselected, hassigned⟩
    exact hspared ⟨(hmask.2 i' hi).mp hselected, hassigned⟩
  | delete conditions confirmed =>
    obtain ⟨mask, hmask, hremoves⟩ := delete_eq_ok happly
    obtain ⟨hnot, mask', hmask', rfl⟩ := hspares
    rw [hmask'.unique hmask, cellAt?_of_removes hremoves hmask.1 (hmask.eq_false hi hnot)]
    exact hcell
  | deleteAll confirmed => exact absurd hspares id

/-- Its columns stay in their places, too. -/
theorem columnNames_of_apply {t : Table} {command : Command} {applied : Applied}
    (happly : t.apply command = .ok applied)
    (hcommand : ∀ confirmed, command ≠ .deleteAll confirmed) :
    ∃ added, (applied.changed.getD t).columnNames = t.columnNames ++ added := by
  have hsame : ∃ added, t.columnNames = t.columnNames ++ added :=
    ⟨[], (List.append_nil _).symm⟩
  cases command with
  | help | clear | list | columns | search keyword =>
    cases happly
    exact hsame
  | searchExact column condition =>
    obtain ⟨report, -, rfl⟩ := Traversal.map_eq_ok_iff.mp happly
    exact hsame
  | add values =>
    cases happly
    exact columnNames_append t _ 1
  | addBatch columns rowCount =>
    cases happly
    exact columnNames_append t columns rowCount
  | update conditions assignments =>
    obtain ⟨mask, -, hrewrites⟩ := update_eq_ok happly
    obtain ⟨added, hcolumns, -⟩ := hrewrites.widens
    refine ⟨added.map Column.name, ?_⟩
    rw [columnNames, hcolumns, List.map_append]
    rfl
  | delete conditions confirmed =>
    obtain ⟨mask, -, hremoves⟩ := delete_eq_ok happly
    refine ⟨[], ?_⟩
    rw [columnNames, hremoves.columns_eq, List.append_nil]
    rfl
  | deleteAll confirmed => exact absurd rfl (hcommand confirmed)

end Table
end TableShell
