import Mathlib.Data.List.Induction
import TableShell.Proofs.Effect.InPlace
import TableShell.Proofs.Effect.MaskedRows
import TableShell.Proofs.Effect.Preparing

/-!
# In place and all at once

`Table.apply` computes the table after a command in one piece; the programs of `InPlace` reach it
step by step. Where every row reaches under every column, no program looks for an item that is not
there, and both give the same table, the same refusal and the same number of rows (`run_apply`).
-/

namespace TableShell

namespace Table

/-- Every row has a cell under every column. -/
def Covered (t : Table) : Prop :=
  ∀ row ∈ t.rows, t.columns.length ≤ row.length

end Table

/-! ## The index -/

namespace Indexed

theorem indexOf_concat (names : List String) (name : String) :
    indexOf (names ++ [name]) = (indexOf names).insert name names.length := by
  rw [indexOf, List.zipIdx_append, List.foldl_append]
  simp [indexOf]

theorem getElem?_indexOf (names : List String) (name : String) :
    (indexOf names)[name]? = Table.lastIndex? names name := by
  induction names using List.reverseRecOn with
  | nil => exact Std.ExtHashMap.getElem?_empty
  | append_singleton names last ih =>
    rw [indexOf_concat, Std.ExtHashMap.getElem?_insert, ih]
    by_cases hlast : last = name
    · rw [hlast, Table.lastIndex?_concat_self]
      simp
    · have hnot : name ∉ [last] := by
        rw [List.mem_singleton]
        exact Ne.symm hlast
      rw [Table.lastIndex?_append hnot]
      simp [hlast]

theorem index_ofTable (t : Table) (name : String) :
    (ofTable t).index[name]? = t.columnIndex? name :=
  getElem?_indexOf t.columnNames name

@[simp] theorem table_ofTable (t : Table) : (ofTable t).table = t := rfl

/-- As long as the names stay, the index does. -/
theorem ofTable_eq_of_columnNames {t t' : Table} (h : t'.columnNames = t.columnNames) :
    ofTable t' = { ofTable t with table := t' } := by
  rw [ofTable, ofTable, h]

end Indexed

namespace InPlace

open Table Indexed

variable {α β : Type}

/-! ## Looking -/

theorem run_get_bind (f : Indexed → InPlace β) (s : Indexed) :
    (get >>= f).run s = (f s).run s :=
  rfl

theorem run_itemAt {items : List α} {place : ℕ} {item : α} (h : items[place]? = some item)
    (s : Indexed) : (itemAt items place).run s = .ok item s := by
  unfold itemAt
  rw [h]
  rfl

theorem run_typeAt {t : Table} {place : ℕ} {column : Column} (h : t.columns[place]? = some column) :
    (typeAt place).run (ofTable t) = .ok column.type (ofTable t) := by
  unfold typeAt
  rw [run_get_bind, table_ofTable, run_bind_of_ok (run_itemAt h _)]
  rfl

theorem run_columnMask (t : Table) (column condition : String) :
    (columnMask column condition).run (ofTable t) = match t.selection? column condition with
      | some mask => .ok mask (ofTable t)
      | none => .error (.refused (.unknownColumn column)) (ofTable t) := by
  unfold columnMask
  rw [run_get_bind, index_ofTable, selection?]
  cases hindex : t.columnIndex? column with
  | none => rfl
  | some index =>
    obtain ⟨found, hcolumn, -⟩ := exists_column hindex
    simp only
    rw [run_bind_of_ok (run_typeAt hcolumn), hcolumn]
    rfl

theorem run_selectAll (t : Table) (conditions : Conditions) :
    (selectAll conditions).run (ofTable t) = match t.selectAll conditions with
      | .ok mask => .ok mask (ofTable t)
      | .error name => .error (.refused (.unknownColumn name)) (ofTable t) := by
  unfold selectAll Table.selectAll
  rw [run_get_bind, table_ofTable]
  -- both folds carry the same mask, whatever it was before the next condition
  generalize t.rows.map (fun _ => true) = mask
  induction conditions.entries generalizing mask with
  | nil => rfl
  | cons entry entries ih =>
    rw [List.foldlM_cons, List.foldlM_cons]
    have hmask := run_columnMask t entry.1 entry.2
    cases hselection : t.selection? entry.1 entry.2 with
    | none =>
      rw [hselection] at hmask
      rw [run_bind_of_error (run_bind_of_error hmask)]
      rfl
    | some selected =>
      rw [hselection] at hmask
      have hstep : (columnMask entry.1 entry.2 >>= fun selected =>
          pure (List.zipWith and mask selected)).run (ofTable t)
            = .ok (List.zipWith and mask selected) (ofTable t) := by
        rw [run_bind_of_ok hmask]
        rfl
      rw [run_bind_of_ok hstep]
      exact ih (List.zipWith and mask selected)

/-! ## Columns -/

theorem run_setType (t : Table) (place : ℕ) (type : ColumnType) :
    (setType place type).run (ofTable t) = .ok () (ofTable (t.setType place type)) := by
  rw [ofTable_eq_of_columnNames (columnNames_setType t place type)]
  rfl

theorem run_addColumn (t : Table) (name : String) (type : ColumnType) :
    (addColumn name type).run (ofTable t)
      = .ok (t.indexForColumn name) (ofTable (t.addColumn name type)) := by
  unfold addColumn Table.addColumn indexForColumn
  rw [run_get_bind, index_ofTable]
  cases hindex : t.columnIndex? name with
  | some place => rfl
  | none =>
    have hindexOf : indexOf (t.columnNames ++ [name])
        = (indexOf t.columnNames).insert name t.columns.length := by
      rw [indexOf_concat, columnNames, List.length_map]
    simp only [ofTable, columnNames, List.map_append, List.map_singleton] at hindexOf ⊢
    rw [hindexOf]
    rfl

/-! ## Columns for the texts of new rows -/

/-- What the prepared table has for the texts of a column. -/
def supplyOf (t : Table) (entry : String × List String) : Supply :=
  ⟨t.indexForColumn entry.1, ((t.column? entry.1).map Column.type).getD .unknown, entry.2⟩

theorem supplyOf_eq {t : Table} {name : String} {place : ℕ} {column : Column}
    (hplace : t.columnIndex? name = some place) (hcolumn : t.columns[place]? = some column)
    (texts : List String) : supplyOf t (name, texts) = ⟨place, column.type, texts⟩ := by
  simp only [supplyOf, indexForColumn, column?, hplace, hcolumn, Option.getD_some,
    Option.bind_some, Option.map_some]

/-- Once a column has a type, what it has for the texts stays. -/
theorem supplyOf_of_readies {t t' : Table} {entry : String × List String} (h : t.Known entry.1)
    (hr : Readies t t') : supplyOf t' entry = supplyOf t entry := by
  obtain ⟨place, column, hplace, hcolumn, htype⟩ := h
  rw [supplyOf_eq hplace hcolumn, supplyOf_eq (hr.columnIndex?_eq hplace) (hr.known hcolumn htype)]

theorem run_supply (t : Table) (entry : String × List String) :
    (supply entry.1 entry.2).run (ofTable t)
      = .ok (supplyOf (t.prepareColumn entry.1 entry.2) entry)
          (ofTable (t.prepareColumn entry.1 entry.2)) := by
  have hplace' := columnIndex?_prepareColumn t entry.1 entry.2
  obtain ⟨column', hcolumn', -⟩ := exists_column hplace'
  rw [supplyOf_eq hplace' hcolumn']
  unfold supply
  rw [run_get_bind, index_ofTable]
  -- the program and `prepareColumn` distinguish the same cases
  unfold prepareColumn at hcolumn' ⊢
  unfold indexForColumn at hcolumn' ⊢
  cases hplace : t.columnIndex? entry.1 with
  | some place =>
    obtain ⟨column, hcolumn, -⟩ := exists_column hplace
    simp only [hplace, hcolumn, Option.map_some, Option.some.injEq, Option.getD_some]
      at hcolumn' ⊢
    rw [run_bind_of_ok (run_typeAt hcolumn)]
    split at hcolumn'
    · rename_i hunknown
      rw [if_pos hunknown, if_pos hunknown, run_bind_of_ok (run_setType _ _ _),
        run_bind_of_ok (run_typeAt hcolumn')]
      rfl
    · rename_i hknown
      rw [if_neg hknown, if_neg hknown, run_bind_of_ok (run_typeAt hcolumn')]
      rfl
  | none =>
    simp only [hplace, Option.getD_none] at hcolumn' ⊢
    rw [run_bind_of_ok (run_addColumn _ _ _)]
    simp only [indexForColumn, hplace, Option.getD_none]
    rw [run_bind_of_ok (run_typeAt hcolumn')]
    rfl

/-- All columns are made ready, and each keeps its place and its type until the rows are filled. -/
theorem run_supplies (t : Table) (entries : List (String × List String)) :
    (entries.mapM fun entry => supply entry.1 entry.2).run (ofTable t)
      = .ok (entries.map (supplyOf (prepareEntries t entries)))
          (ofTable (prepareEntries t entries)) := by
  induction entries generalizing t with
  | nil => rfl
  | cons entry entries ih =>
    have hstays := supplyOf_of_readies (known_prepareColumn t entry.1 entry.2)
      (readies_prepareEntries _ entries)
    rw [List.mapM_cons, run_bind_of_ok (run_supply t entry), run_bind_of_ok (ih _), ← hstays]
    rfl

/-! ## New rows -/

theorem run_replaceAt {row : Row} {place : ℕ} (h : place < row.length) (cell : Cell)
    (s : Indexed) : (replaceAt row place cell).run s = .ok (row.set place cell) s := by
  unfold replaceAt
  rw [if_pos h]
  rfl

/-- The row with the text of number `i` of each supply. -/
def filled (supplies : List Supply) (i : ℕ) (row : Row) : Row :=
  supplies.foldl
    (fun row supply =>
      match supply.texts[i]? with
      | some text => row.set supply.place (Cell.cast text supply.type)
      | none => row)
    row

theorem run_fillRow {supplies : List Supply} {row : Row}
    (h : ∀ supply ∈ supplies, supply.place < row.length) (i : ℕ) (s : Indexed) :
    (fillRow supplies i row).run s = .ok (filled supplies i row) s := by
  unfold fillRow filled
  induction supplies generalizing row with
  | nil => rfl
  | cons supply supplies ih =>
    rw [List.forall_mem_cons] at h
    rw [List.foldlM_cons, List.foldl_cons]
    cases htext : supply.texts[i]? with
    | none => exact ih h.2
    | some text =>
      simp only
      rw [run_bind_of_ok (run_replaceAt h.1 _ s)]
      apply ih
      rw [List.length_set]
      exact h.2

/-- The text of number `i` that the entries give for the column at the place. -/
def textAt? (t : Table) (entries : List (String × List String)) (i place : ℕ) (name : String) :
    Option String :=
  if t.columnIndex? name = some place then
    (entries.lookup name).bind fun texts => texts[i]?
  else
    none

/-- Entries of distinct names fill each place at most once. -/
theorem getElem?_filled {t : Table} {entries : List (String × List String)}
    (hnodup : (entries.map Prod.fst).Nodup) (hknown : ∀ entry ∈ entries, t.Known entry.1)
    (i : ℕ) {place : ℕ} {column : Column} (hcolumn : t.columns[place]? = some column) (row : Row) :
    (filled (entries.map (supplyOf t)) i row)[place]? = row[place]?.map fun cell =>
      match textAt? t entries i place column.name with
      | some text => Cell.cast text column.type
      | none => cell := by
  unfold filled textAt?
  induction entries generalizing row with
  | nil => simp
  | cons entry entries ih =>
    rw [List.map_cons, List.nodup_cons] at hnodup
    rw [List.forall_mem_cons] at hknown
    rw [List.map_cons, List.foldl_cons, ih hnodup.2 hknown.2, List.lookup_cons]
    obtain ⟨target, found, htarget, hfound, -⟩ := hknown.1
    rw [supplyOf_eq htarget hfound]
    by_cases hcase : entry.1 = column.name
    · -- the entry names the column, and no later one does
      have hlookup : entries.lookup column.name = none := by
        rw [List.lookup_eq_none_iff]
        intro other hother
        rw [bne_iff_ne, ← hcase]
        rintro heq
        exact hnodup.1 (heq ▸ List.mem_map_of_mem hother)
      rw [hcase] at htarget
      simp only [hlookup, htarget, Option.some.injEq, hcase, beq_self_eq_true]
      by_cases hplace : target = place
      · rw [hplace, hcolumn] at hfound
        cases hfound
        subst hplace
        cases htext : entry.2[i]? with
        | none => cases row[target]? <;> simp [htext]
        | some text =>
          by_cases hlt : target < row.length
          · simp [htext, hlt]
          · simp [htext, hlt]
      · cases htext : entry.2[i]? with
        | none => cases row[place]? <;> simp [hplace]
        | some text => cases hcell : row[place]? <;> simp [hplace, hcell]
    · -- the entry names another column, which stands at another place
      have hplace : target ≠ place := by
        rintro rfl
        obtain ⟨named, hnamed, hname⟩ := exists_column htarget
        rw [hcolumn] at hnamed
        cases hnamed
        exact hcase hname.symm
      have hne : (column.name == entry.1) = false := by
        rw [beq_eq_false_iff_ne]
        exact Ne.symm hcase
      cases htext : entry.2[i]? with
      | none => simp [hne]
      | some text => simp [hne, hplace]

theorem length_filled (supplies : List Supply) (i : ℕ) (row : Row) :
    (filled supplies i row).length = row.length := by
  unfold filled
  induction supplies generalizing row with
  | nil => rfl
  | cons supply supplies ih =>
    rw [List.foldl_cons, ih]
    split
    · exact List.length_set
    · rfl

theorem length_resize (cells : List Cell) {length : ℕ} (h : cells.length ≤ length) :
    (resize cells length).length = length := by
  unfold resize
  rw [List.length_append, List.length_replicate]
  omega

theorem getElem?_resize (cells : List Cell) {length place : ℕ} (h : place < length) :
    (resize cells length)[place]? = some (cells[place]?.getD .missing) := by
  unfold resize
  by_cases hplace : place < cells.length
  · rw [List.getElem?_append_left hplace, List.getElem?_eq_getElem hplace]
    rfl
  · have hle : cells.length ≤ place := Nat.le_of_not_lt hplace
    rw [List.getElem?_append_right hle, List.getElem?_replicate, if_pos (by omega),
      List.getElem?_eq_none hle]
    rfl

/-- Filled from its defaults, a row is the new row of the command. -/
theorem filled_eq_newRow {t : Table} {columns : OrderedMap (List String)}
    (hknown : ∀ entry ∈ columns.entries, t.Known entry.1) {defaults : List Cell}
    (hdefaults : defaults.length ≤ t.columns.length) (i : ℕ) :
    filled (columns.entries.map (supplyOf t)) i (resize defaults t.columns.length)
      = t.newRow defaults columns i := by
  apply List.ext_getElem?
  intro place
  unfold newRow
  rw [List.getElem?_mapIdx]
  by_cases hplace : place < t.columns.length
  · have hcolumn : t.columns[place]? = some t.columns[place] := List.getElem?_eq_getElem hplace
    rw [getElem?_filled columns.nodup_keys hknown i hcolumn, hcolumn, getElem?_resize _ hplace]
    rfl
  · have hle : t.columns.length ≤ place := Nat.le_of_not_lt hplace
    rw [List.getElem?_eq_none, List.getElem?_eq_none hle]
    · rfl
    · rwa [length_filled, length_resize _ hdefaults]

theorem place_supplyOf_lt {t : Table} {entry : String × List String} (h : t.Known entry.1) :
    (supplyOf t entry).place < t.columns.length := by
  obtain ⟨place, column, hplace, hcolumn, -⟩ := h
  rw [supplyOf_eq hplace hcolumn]
  exact columnIndex?_lt hplace

theorem run_appendRows {t : Table} {columns : OrderedMap (List String)}
    (hknown : ∀ entry ∈ columns.entries, t.Known entry.1) {defaults : List Cell}
    (hdefaults : defaults.length ≤ t.columns.length) (numbers : List ℕ) (rows : List Row) :
    (forM numbers (appendRow defaults (columns.entries.map (supplyOf t)))).run
        (ofTable { t with rows })
      = .ok () (ofTable { t with rows := rows ++ numbers.map (t.newRow defaults columns) }) := by
  induction numbers generalizing rows with
  | nil =>
    rw [List.map_nil, List.append_nil]
    rfl
  | cons i numbers ih =>
    have hfits : ∀ supply ∈ columns.entries.map (supplyOf t),
        supply.place < (resize defaults t.columns.length).length := by
      rw [length_resize _ hdefaults, List.forall_mem_map]
      intro entry hentry
      exact place_supplyOf_lt (hknown entry hentry)
    have hrow : (appendRow defaults (columns.entries.map (supplyOf t)) i).run
        (ofTable { t with rows })
          = .ok () (ofTable { t with rows := rows ++ [t.newRow defaults columns i] }) := by
      have hfill := run_fillRow hfits i (ofTable { t with rows })
      rw [filled_eq_newRow hknown hdefaults] at hfill
      unfold appendRow
      rw [run_get_bind]
      exact (run_bind_of_ok hfill).trans rfl
    rw [List.forM_cons, run_bind_of_ok hrow, ih, List.map_cons, List.append_assoc]
    rfl

/-! ## Settling -/

/-- The table with the types of the first columns settled. -/
def settledTo (t : Table) (bound : ℕ) : Table :=
  { t with columns := t.columns.mapIdx fun place column =>
      if place < bound then t.settleColumn place column else column }

/-- Settling one type more. -/
theorem settledTo_succ {t : Table} {bound : ℕ} {column : Column}
    (h : t.columns[bound]? = some column) :
    settledTo t (bound + 1) = if column.type = .unknown then
      (settledTo t bound).setType bound (Cell.commonType (t.cellsAt bound))
    else
      settledTo t bound := by
  have hcolumns : ∀ place, (settledTo t (bound + 1)).columns[place]?
      = if place = bound then some (t.settleColumn bound column)
        else (settledTo t bound).columns[place]? := by
    intro place
    simp only [settledTo, List.getElem?_mapIdx]
    by_cases hplace : place = bound
    · rw [hplace, h]
      simp
    · rw [if_neg hplace]
      have hiff : place < bound + 1 ↔ place < bound := by omega
      simp only [hiff]
  have hat : (settledTo t bound).columns[bound]? = some column := by
    simp [settledTo, List.getElem?_mapIdx, h]
  split
  · rename_i hunknown
    have hsettle : t.settleColumn bound column
        = { column with type := Cell.commonType (t.cellsAt bound) } := by
      rw [settleColumn, if_pos hunknown]
    have heq : (settledTo t (bound + 1)).columns
        = ((settledTo t bound).setType bound (Cell.commonType (t.cellsAt bound))).columns := by
      apply List.ext_getElem?
      intro place
      rw [hcolumns, hsettle, Table.setType, List.getElem?_modify]
      by_cases hplace : place = bound
      · subst hplace
        simp [hat]
      · simp [hplace, Ne.symm hplace]
    exact congrArg (fun columns => (⟨columns, t.rows⟩ : Table)) heq
  · rename_i hknown
    have hsettle : t.settleColumn bound column = column := by
      rw [settleColumn, if_neg hknown]
    have heq : (settledTo t (bound + 1)).columns = (settledTo t bound).columns := by
      apply List.ext_getElem?
      intro place
      rw [hcolumns, hsettle]
      by_cases hplace : place = bound
      · rw [if_pos hplace, hplace, hat]
      · rw [if_neg hplace]
    exact congrArg (fun columns => (⟨columns, t.rows⟩ : Table)) heq

theorem columns_settledTo_of_le {t : Table} {bound place : ℕ} (h : bound ≤ place) :
    (settledTo t bound).columns[place]? = t.columns[place]? := by
  simp only [settledTo, List.getElem?_mapIdx, if_neg (Nat.not_lt.mpr h)]
  exact Option.map_id'

theorem run_settleAt {t : Table} {bound : ℕ} (h : bound < t.columns.length) :
    (settleAt bound).run (ofTable (settledTo t bound))
      = .ok () (ofTable (settledTo t (bound + 1))) := by
  have hcolumn : t.columns[bound]? = some t.columns[bound] := List.getElem?_eq_getElem h
  have hcolumn' := (columns_settledTo_of_le (t := t) (Nat.le_refl bound)).trans hcolumn
  unfold settleAt
  rw [run_bind_of_ok (run_typeAt hcolumn'), settledTo_succ hcolumn]
  split
  · rw [run_get_bind, run_setType]
    rfl
  · rfl

theorem run_settleTypes (t : Table) :
    settleTypes.run (ofTable t) = .ok () (ofTable t.settleTypes) := by
  -- the loop has settled the first columns
  have hloop : ∀ bound ≤ t.columns.length,
      (forM (List.range bound) settleAt).run (ofTable t)
        = .ok () (ofTable (settledTo t bound)) := by
    intro bound
    induction bound with
    | zero =>
      intro _
      have hcolumns : (settledTo t 0).columns = t.columns := by
        apply List.ext_getElem?
        intro place
        exact columns_settledTo_of_le (Nat.zero_le place)
      have hzero : settledTo t 0 = t :=
        congrArg (fun columns => (⟨columns, t.rows⟩ : Table)) hcolumns
      rw [hzero]
      rfl
    | succ bound ih =>
      intro hbound
      rw [List.range_succ, List.forM_append, run_bind_of_ok (ih (Nat.le_of_succ_le hbound))]
      rw [List.forM_cons, run_bind_of_ok (run_settleAt hbound)]
      rfl
  unfold settleTypes Table.settleTypes
  rw [run_get_bind, table_ofTable]
  split
  · rfl
  · rw [hloop _ (Nat.le_refl _)]
    have hall : settledTo t t.columns.length
        = { t with columns := t.columns.mapIdx t.settleColumn } := by
      unfold settledTo
      congr 1
      apply List.ext_getElem?
      intro place
      simp only [List.getElem?_mapIdx]
      by_cases hplace : place < t.columns.length
      · simp only [if_pos hplace]
      · rw [List.getElem?_eq_none (Nat.le_of_not_lt hplace)]
        rfl
    rw [hall]

/-! ## Appending -/

theorem run_append (t : Table) (columns : OrderedMap (List String)) (rowCount : ℕ) :
    (append columns rowCount).run (ofTable t) = .ok () (ofTable (t.append columns rowCount)) := by
  unfold append Table.append
  rw [run_get_bind, table_ofTable, run_bind_of_ok (run_supplies t columns.entries)]
  have hknown : ∀ entry ∈ columns.entries, (prepareEntries t columns.entries).Known entry.1 := by
    intro entry hentry
    exact known_prepareEntries hentry
  have hdefaults : (t.columns.map fun column => column.type.defaultCell).length
      ≤ (prepareEntries t columns.entries).columns.length := by
    rw [List.length_map]
    exact (readies_prepareEntries t columns.entries).length_le
  have hrows := run_appendRows hknown hdefaults (List.range rowCount)
    (prepareEntries t columns.entries).rows
  rw [run_bind_of_ok hrows, run_settleTypes]
  rfl

/-! ## Changing -/

theorem run_writeSelected {rows : List Row} {place : ℕ} (h : ∀ row ∈ rows, place < row.length)
    (cell : Cell) (mask : List Bool) (s : Indexed) :
    (writeSelected place cell rows mask).run s
      = .ok (mapSelected (·.set place cell) rows mask) s := by
  induction rows generalizing mask with
  | nil =>
    rw [writeSelected.eq_def, mapSelected.eq_def]
    rfl
  | cons row rows ih =>
    rw [List.forall_mem_cons] at h
    cases mask with
    | nil => rfl
    | cons selected mask =>
      cases selected with
      | true =>
        rw [writeSelected, run_bind_of_ok (run_replaceAt h.1 cell s),
          run_bind_of_ok (ih h.2 mask)]
        rfl
      | false =>
        rw [writeSelected, run_bind_of_ok (ih h.2 mask)]
        rfl

theorem covered_addColumn {t : Table} (h : t.Covered) (name : String) (type : ColumnType) :
    (t.addColumn name type).Covered := by
  unfold Table.addColumn
  split
  · exact h
  · intro row hrow
    obtain ⟨old, hold, rfl⟩ := List.mem_map.mp hrow
    have hle := h old hold
    simp only [List.length_append, List.length_singleton]
    omega

theorem covered_assignColumn {t : Table} (h : t.Covered) (mask : List Bool) (name text : String) :
    (Table.assignColumn mask t name text).Covered := by
  intro row hrow
  obtain ⟨i, hi⟩ := List.mem_iff_getElem?.mp hrow
  unfold Table.assignColumn at hi ⊢
  simp only [getElem?_mapSelected, Option.map_eq_some_iff] at hi
  obtain ⟨old, hold, rfl⟩ := hi
  have hle := covered_addColumn h name (Cell.inferType [text]) old (List.mem_of_getElem? hold)
  split
  · rw [List.length_set]
    exact hle
  · exact hle

theorem run_assignColumn {t : Table} (h : t.Covered) (mask : List Bool) (name text : String) :
    (assignColumn mask name text).run (ofTable t)
      = .ok () (ofTable (Table.assignColumn mask t name text)) := by
  unfold assignColumn Table.assignColumn
  rw [run_bind_of_ok (run_addColumn t name _)]
  have hplace := columnIndex?_addColumn t name (Cell.inferType [text])
  obtain ⟨column, hcolumn, -⟩ := exists_column hplace
  have hcovered := covered_addColumn h name (Cell.inferType [text])
  have hlt := columnIndex?_lt hplace
  -- the rows were widened with the columns, so the place is there in each of them
  have hrows : ∀ row ∈ (t.addColumn name (Cell.inferType [text])).rows,
      t.indexForColumn name < row.length := by
    intro row hrow
    exact Nat.lt_of_lt_of_le hlt (hcovered row hrow)
  rw [run_bind_of_ok (run_typeAt hcolumn), run_get_bind, table_ofTable,
    run_bind_of_ok (run_writeSelected hrows _ mask _)]
  simp only [hcolumn, Option.map_some, Option.getD_some]
  rfl

theorem run_assign {t : Table} (h : t.Covered) (mask : List Bool) (assignments : Assignments) :
    (forM assignments.entries fun entry => assignColumn mask entry.1 entry.2).run (ofTable t)
      = .ok () (ofTable (Table.assign mask t assignments)) := by
  unfold Table.assign
  induction assignments.entries generalizing t with
  | nil => rfl
  | cons entry entries ih =>
    rw [List.forM_cons, run_bind_of_ok (run_assignColumn h mask entry.1 entry.2)]
    exact ih (covered_assignColumn h mask entry.1 entry.2)

/-! ## Commands -/

/-- The end of a program that does what `Table.apply` says. -/
def expected (t : Table) : Except Refusal Applied → EStateM.Result Halt Indexed (Option ℕ)
  | .ok applied => .ok applied.report.affectedRows (ofTable (applied.changed.getD t))
  | .error cause => .error (.refused cause) (ofTable t)

theorem run_add (t : Table) (values : Assignments) :
    (add values).run (ofTable t) = expected t (.ok (t.add values)) := by
  have hlength := length_rows_append t (values.map fun text => [text]) 1
  -- the report looks up the row at the end of the old ones, which is the new one
  have hlast : t.rows.length < (t.append (values.map fun text => [text]) 1).rows.length := by
    omega
  unfold add
  rw [run_get_bind, table_ofTable, run_bind_of_ok (run_append t _ 1), run_get_bind, table_ofTable,
    run_bind_of_ok (run_itemAt (List.getElem?_eq_getElem hlast) _)]
  rfl

theorem run_addBatch (t : Table) (columns : OrderedMap (List String)) (rowCount : ℕ) :
    (addBatch columns rowCount).run (ofTable t)
      = expected t (.ok (t.addBatch columns rowCount)) := by
  unfold addBatch
  rw [run_bind_of_ok (run_append t columns rowCount)]
  rfl

theorem run_update {t : Table} (h : t.Covered) (conditions : Conditions)
    (assignments : Assignments) :
    (update conditions assignments).run (ofTable t)
      = expected t (t.update conditions assignments) := by
  unfold update Table.update
  rw [run_get_bind, table_ofTable]
  split
  · rfl
  · have hmask := run_selectAll t conditions
    cases hselect : t.selectAll conditions with
    | error name =>
      rw [hselect] at hmask
      rw [run_bind_of_error hmask]
      rfl
    | ok mask =>
      rw [hselect] at hmask
      rw [run_bind_of_ok hmask]
      show (if mask.count true = 0 then _ else _ : InPlace (Option ℕ)).run (ofTable t)
        = expected t (if mask.count true = 0 then _ else _)
      by_cases hnone : mask.count true = 0
      · rw [if_pos hnone, if_pos hnone]
        rfl
      · rw [if_neg hnone, if_neg hnone, run_bind_of_ok (run_assign h mask assignments)]
        rfl

theorem run_delete (t : Table) (conditions : Conditions) (confirmed : Bool) :
    (delete conditions confirmed).run (ofTable t)
      = expected t (t.delete conditions confirmed) := by
  unfold delete Table.delete
  rw [run_get_bind, table_ofTable]
  split
  · rfl
  · have hmask := run_selectAll t conditions
    cases hselect : t.selectAll conditions with
    | error name =>
      rw [hselect] at hmask
      rw [run_bind_of_error hmask]
      rfl
    | ok mask =>
      rw [hselect] at hmask
      rw [run_bind_of_ok hmask]
      show (if mask.count true = 0 then _ else if _ then _ else _ : InPlace (Option ℕ)).run
          (ofTable t)
        = expected t (if mask.count true = 0 then _ else if _ then _ else _)
      by_cases hnone : mask.count true = 0
      · rw [if_pos hnone, if_pos hnone]
        rfl
      · rw [if_neg hnone, if_neg hnone]
        split <;> rfl

theorem run_deleteAll (t : Table) (confirmed : Bool) :
    (deleteAll confirmed).run (ofTable t) = expected t (t.deleteAll confirmed) := by
  unfold deleteAll Table.deleteAll
  rw [run_get_bind, table_ofTable]
  split
  · rfl
  · cases confirmed <;> rfl

theorem run_searchExact (t : Table) (column condition : String) :
    (searchExact column condition).run (ofTable t)
      = expected t ((t.searchExact column condition).map .read) := by
  unfold searchExact Table.searchExact
  rw [run_get_bind, table_ofTable]
  split
  · rfl
  · have hmask := run_columnMask t column condition
    cases hselection : t.selection? column condition with
    | none =>
      rw [hselection] at hmask
      rw [run_bind_of_error hmask]
      rfl
    | some mask =>
      rw [hselection] at hmask
      rw [run_bind_of_ok hmask]
      simp only
      split <;> rfl

/-- Where every row reaches under every column, the program of a command does what `Table.apply`
says, and never looks for an item that is not there. -/
theorem run_apply {t : Table} (h : t.Covered) (command : Command) :
    (apply command).run (ofTable t) = expected t (t.apply command) := by
  cases command with
  | help | clear => rfl
  | list =>
    show EStateM.Result.ok none (ofTable t) = expected t (.ok (.read t.list))
    unfold Table.list
    split <;> rfl
  | columns =>
    show EStateM.Result.ok none (ofTable t) = expected t (.ok (.read t.describeColumns))
    unfold Table.describeColumns
    split <;> rfl
  | search keyword =>
    show EStateM.Result.ok none (ofTable t) = expected t (.ok (.read (t.search keyword)))
    unfold Table.search
    split
    · rfl
    · simp only
      split <;> rfl
  | add values => exact run_add t values
  | addBatch columns rowCount => exact run_addBatch t columns rowCount
  | update conditions assignments => exact run_update h conditions assignments
  | delete conditions confirmed => exact run_delete t conditions confirmed
  | deleteAll confirmed => exact run_deleteAll t confirmed
  | searchExact column condition => exact run_searchExact t column condition

end InPlace
end TableShell
