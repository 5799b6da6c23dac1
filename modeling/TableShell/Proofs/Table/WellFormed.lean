import TableShell.Proofs.Delimited.FixedPoint
import TableShell.Proofs.Effect.Changes
import TableShell.Proofs.Effect.MaskedRows
import TableShell.Proofs.Effect.Preparing

/-!
# Every table is well formed

Each table that a text is read as is well formed, and every step of a command keeps a table so
(`WellFormed.after`). The steps that create columns and type them leave rows alone; the texts
that come in are cast to the types that the columns have by then; and types that are still unknown
belong to columns of missing cells, so that settling them refuses no cell.
-/

namespace TableShell

namespace Table

/-! ## Cells that fit -/

theorem cellFits_missing (type : ColumnType) : CellFits type .missing :=
  ⟨Or.inl rfl, by simp⟩

theorem cellFits_text (type : ColumnType) (s : String) : CellFits type (.text s) :=
  ⟨Or.inr (Or.inl rfl), by simp⟩

/-- A proper value fits in a column of its type. -/
theorem cellFits_of_isValue {type : ColumnType} {cell : Cell} (h : cell.IsValue)
    (htype : cell.type = type) : CellFits type cell := by
  refine ⟨Or.inr (Or.inr htype), ?_⟩
  rintro rfl
  exact h rfl

theorem cellFits_cast {type : ColumnType} (h : type ≠ .unknown) (s : String) :
    CellFits type (Cell.cast s type) := by
  rcases Cell.cast_cases s h with ⟨hcast, -⟩ | ⟨-, hcast | ⟨hvalue, htype⟩⟩
  · rw [hcast]
    exact cellFits_missing type
  · rw [hcast]
    exact cellFits_text type s
  · exact cellFits_of_isValue hvalue htype

theorem cellFits_field {type : ColumnType} (h : type ≠ .unknown) (f : Delimited.Field) :
    CellFits type (f.cell type) := by
  rcases Delimited.cell_cases (f := f) h with ⟨-, hcell⟩ | ⟨-, hcell | ⟨-, hvalue, htype⟩⟩
  · rw [hcell]
    exact cellFits_missing type
  · rw [hcell]
    exact cellFits_text type f.text
  · exact cellFits_of_isValue hvalue htype

theorem cellFits_defaultCell (type : ColumnType) : CellFits type type.defaultCell := by
  cases type with
  | integer => exact cellFits_of_isValue trivial rfl
  | float => exact cellFits_of_isValue (by decide : Binary64.zero false ≠ .nan) rfl
  | boolean => exact cellFits_of_isValue trivial rfl
  | text => exact cellFits_text .text ""
  | unknown => exact cellFits_missing .unknown

/-- In a column without a type, only such cells stand as fit in every column. -/
theorem CellFits.of_unknown {cell : Cell} (h : CellFits .unknown cell) (type : ColumnType) :
    CellFits type cell := by
  obtain ⟨hcell | htext | hunknown, hnan⟩ := h
  · exact ⟨Or.inl hcell, hnan⟩
  · exact ⟨Or.inr (Or.inl htext), hnan⟩
  · refine ⟨Or.inl ?_, hnan⟩
    revert hunknown
    cases cell <;> simp [Cell.type]

/-! ## Rows that fit -/

theorem rowFits_iff {columns : List Column} {row : Row} :
    RowFits columns row ↔ row.length = columns.length ∧
      ∀ {place : ℕ} {column : Column} {cell : Cell}, columns[place]? = some column →
        row[place]? = some cell → CellFits column.type cell := by
  unfold RowFits
  constructor
  · intro h
    refine ⟨h.1, ?_⟩
    intro place column cell hcolumn hcell
    apply h.2 (column, cell)
    apply List.mem_of_getElem?
    exact List.getElem?_zip_eq_some.mpr ⟨hcolumn, hcell⟩
  · intro h
    refine ⟨h.1, ?_⟩
    intro pair hpair
    obtain ⟨place, hplace⟩ := List.mem_iff_getElem?.mp hpair
    rw [List.getElem?_zip_eq_some] at hplace
    exact h.2 hplace.1 hplace.2

/-- A missing cell fits under a column more. -/
theorem RowFits.concat {columns : List Column} {row : Row} (h : RowFits columns row)
    (column : Column) : RowFits (columns ++ [column]) (row ++ [.missing]) := by
  refine ⟨by simp [h.1], ?_⟩
  intro pair hpair
  rw [List.zip_append h.1.symm] at hpair
  rcases List.mem_append.mp hpair with hmem | hmem
  · exact h.2 pair hmem
  · rw [List.zip_cons_cons, List.zip_nil_left, List.mem_singleton] at hmem
    rw [hmem]
    exact cellFits_missing column.type

/-- A cell that fits may be put under its column. -/
theorem RowFits.set {columns : List Column} {row : Row} (h : RowFits columns row) {place : ℕ}
    {column : Column} (hcolumn : columns[place]? = some column) {cell : Cell}
    (hcell : CellFits column.type cell) : RowFits columns (row.set place cell) := by
  rw [rowFits_iff] at h ⊢
  refine ⟨by rw [List.length_set, h.1], ?_⟩
  intro other column' cell' hcolumn' hcell'
  by_cases hother : place = other
  · subst hother
    rw [hcolumn] at hcolumn'
    cases hcolumn'
    rw [List.getElem?_set_self' ] at hcell'
    obtain ⟨_, _, rfl⟩ := Option.map_eq_some_iff.mp hcell'
    exact hcell
  · rw [List.getElem?_set_ne hother] at hcell'
    exact h.2 hcolumn' hcell'

/-! ## What is read -/

theorem wellFormed_tableOf {names : List String} {rows : List (List Delimited.Field)}
    (hnames : names.Nodup) (hwidth : ∀ row ∈ rows, row.length = names.length) :
    (Delimited.tableOf names rows).WellFormed where
  nodup_names := by
    rw [Delimited.columnNames_tableOf]
    exact hnames
  rows_fit := by
    intro row hrow
    obtain ⟨fields, hfields, rfl⟩ := List.mem_map.mp hrow
    have hrows : rows ≠ [] := List.ne_nil_of_mem hfields
    rw [rowFits_iff]
    refine ⟨?_, ?_⟩
    · rw [Delimited.length_columns_tableOf, List.length_zipWith, List.length_map,
        List.length_range, hwidth fields hfields, Nat.min_self]
    · intro place column cell hcolumn hcell
      have hlt : place < names.length := by
        rw [← Delimited.length_columns_tableOf names rows]
        exact (List.getElem?_eq_some_iff.mp hcolumn).1
      rw [Delimited.columns_tableOf hlt] at hcolumn
      rw [Delimited.getElem?_zipWith_cell hlt] at hcell
      obtain ⟨f, -, rfl⟩ := Option.map_eq_some_iff.mp hcell
      cases hcolumn
      exact cellFits_field (Delimited.columnType_ne_unknown hrows place) f
  types_known := by
    intro hrows column hcolumn
    obtain ⟨place, hplace⟩ := List.mem_iff_getElem?.mp hcolumn
    have hlt : place < names.length := by
      rw [← Delimited.length_columns_tableOf names rows]
      exact (List.getElem?_eq_some_iff.mp hplace).1
    rw [Delimited.columns_tableOf hlt] at hplace
    cases hplace
    apply Delimited.columnType_ne_unknown
    rintro rfl
    exact hrows rfl

/-- Every table that a text is read as is well formed. -/
theorem wellFormed_of_read {delimiter : Char} {content : String} {t : Table}
    (h : Delimited.read delimiter content = .ok t) : t.WellFormed := by
  obtain ⟨names, rows, rfl, -, hnames, hwidth⟩ := Delimited.exists_tableOf_of_read h
  exact wellFormed_tableOf hnames hwidth

/-! ## Steps that keep tables well formed -/

namespace WellFormed

variable {t t' : Table}

/-- No cell holds what is not a number. -/
theorem ne_nan (h : t.WellFormed) : ∀ row ∈ t.rows, ∀ cell ∈ row, cell ≠ .float .nan := by
  intro row hrow cell hcell
  obtain ⟨place, hplace⟩ := List.mem_iff_getElem?.mp hcell
  have hlt := (List.getElem?_eq_some_iff.mp hplace).1
  have hfits := rowFits_iff.mp (h.rows_fit row hrow)
  rw [hfits.1] at hlt
  exact (hfits.2 (List.getElem?_eq_getElem hlt) hplace).2

/-- A table with some of the rows. -/
theorem of_rows_subset (h : t.WellFormed) (hcolumns : t'.columns = t.columns)
    (hrows : ∀ row ∈ t'.rows, row ∈ t.rows) : t'.WellFormed where
  nodup_names := by
    rw [columnNames, hcolumns]
    exact h.nodup_names
  rows_fit := by
    intro row hrow
    rw [hcolumns]
    exact h.rows_fit row (hrows row hrow)
  types_known := by
    intro hne
    obtain ⟨row, hrow⟩ := List.exists_mem_of_ne_nil _ hne
    rw [hcolumns]
    exact h.types_known (List.ne_nil_of_mem (hrows row hrow))

theorem filter (h : t.WellFormed) (mask : List Bool) : (t.filter mask).WellFormed := by
  have hrows : ∀ row ∈ (t.filter mask).rows, row ∈ t.rows := by
    intro row hrow
    obtain ⟨entry, hentry, rfl⟩ := List.mem_map.mp hrow
    exact (List.of_mem_zip (List.mem_filter.mp hentry).1).1
  exact h.of_rows_subset rfl hrows

theorem mem_of_mem_unselected {rows : List Row} {mask : List Bool} {row : Row}
    (h : row ∈ unselected rows mask) : row ∈ rows := by
  induction rows generalizing mask with
  | nil =>
    rw [unselected.eq_def] at h
    exact h
  | cons first rows ih =>
    cases mask with
    | nil => exact h
    | cons selected mask =>
      rw [unselected] at h
      split at h
      · exact List.mem_cons_of_mem _ (ih h)
      · rcases List.mem_cons.mp h with rfl | hmem
        · exact List.mem_cons_self
        · exact List.mem_cons_of_mem _ (ih hmem)

theorem remove (h : t.WellFormed) (mask : List Bool) : (t.remove mask).WellFormed :=
  h.of_rows_subset rfl fun _ => mem_of_mem_unselected

/-- A column with a type may be created at any time. -/
theorem addColumn (h : t.WellFormed) (name : String) {type : ColumnType}
    (htype : type ≠ .unknown) : (t.addColumn name type).WellFormed := by
  unfold Table.addColumn
  cases hplace : t.columnIndex? name with
  | some place => exact h
  | none =>
    have hnew : name ∉ t.columnNames := columnIndex?_eq_none_iff.mp hplace
    constructor
    · simp only [columnNames, List.map_append, List.map_singleton]
      rw [List.nodup_append]
      refine ⟨h.nodup_names, by simp, ?_⟩
      rintro old hold other hother rfl
      exact hnew (List.mem_singleton.mp hother ▸ hold)
    · intro row hrow
      obtain ⟨old, hold, rfl⟩ := List.mem_map.mp hrow
      exact (h.rows_fit old hold).concat ⟨name, type⟩
    · intro hrows column hcolumn
      rcases List.mem_append.mp hcolumn with hmem | hmem
      · apply h.types_known _ column hmem
        rintro hnil
        simp [hnil] at hrows
      · rw [List.mem_singleton.mp hmem]
        exact htype

/-- As long as there are no rows, a column may be typed. -/
theorem setType (h : t.WellFormed) (hrows : t.rows = []) (place : ℕ) (type : ColumnType) :
    (t.setType place type).WellFormed where
  nodup_names := by
    rw [columnNames_setType]
    exact h.nodup_names
  rows_fit := by
    intro row hrow
    have hmem : row ∈ t.rows := hrow
    rw [hrows] at hmem
    cases hmem
  types_known hne := absurd hrows hne

theorem prepareColumn (h : t.WellFormed) (name : String) (texts : List String) :
    (t.prepareColumn name texts).WellFormed := by
  unfold Table.prepareColumn
  cases hplace : t.columnIndex? name with
  | none => exact h.addColumn name (Cell.inferType_ne_unknown texts)
  | some place =>
    simp only
    split
    · -- a column without a type stands over no rows
      rename_i hunknown
      apply h.setType
      by_contra hrows
      obtain ⟨column, hcolumn, htype⟩ := Option.map_eq_some_iff.mp hunknown
      exact h.types_known hrows column (List.mem_of_getElem? hcolumn) htype
    · exact h

theorem prepareEntries (h : t.WellFormed) (entries : List (String × List String)) :
    (t.prepareEntries entries).WellFormed := by
  induction entries generalizing t with
  | nil => exact h
  | cons entry entries ih => exact ih (h.prepareColumn entry.1 entry.2)

end WellFormed

/-- Settling completes a table in which everything else is well formed. -/
theorem wellFormed_settleTypes {t : Table} (hnames : t.columnNames.Nodup)
    (hrows : ∀ row ∈ t.rows, RowFits t.columns row) : t.settleTypes.WellFormed := by
  unfold settleTypes
  cases hempty : t.rows.isEmpty with
  | true =>
    have hnil : t.rows = [] := List.isEmpty_iff.mp hempty
    exact ⟨hnames, hrows, fun hne => absurd hnil hne⟩
  | false =>
    have hname : ∀ place column, (t.settleColumn place column).name = column.name := by
      intro place column
      unfold settleColumn
      split <;> rfl
    have htype : ∀ place column, (t.settleColumn place column).type ≠ .unknown := by
      intro place column
      unfold settleColumn
      split
      · exact ColumnType.settled_ne_unknown _
      · assumption
    constructor
    · have hsame : (t.columns.mapIdx t.settleColumn).map Column.name = t.columnNames := by
        apply List.ext_getElem?
        intro place
        rw [List.getElem?_map, List.getElem?_mapIdx, columnNames, List.getElem?_map,
          Option.map_map]
        exact Option.map_congr fun column _ => hname place column
      show ((t.columns.mapIdx t.settleColumn).map Column.name).Nodup
      rw [hsame]
      exact hnames
    · intro row hrow
      have hfits := rowFits_iff.mp (hrows row hrow)
      rw [if_neg Bool.false_ne_true, rowFits_iff]
      refine ⟨by rw [List.length_mapIdx, hfits.1], ?_⟩
      intro place column cell hcolumn hcell
      rw [List.getElem?_mapIdx] at hcolumn
      obtain ⟨old, hold, rfl⟩ := Option.map_eq_some_iff.mp hcolumn
      have hcellFits := hfits.2 hold hcell
      -- under no type there are only missing cells and texts, and these fit under any
      unfold settleColumn
      split
      · rename_i hunknown
        rw [hunknown] at hcellFits
        exact hcellFits.of_unknown _
      · exact hcellFits
    · intro _ column hcolumn
      obtain ⟨place, hplace⟩ := List.mem_iff_getElem?.mp hcolumn
      rw [if_neg Bool.false_ne_true, List.getElem?_mapIdx] at hplace
      obtain ⟨old, -, rfl⟩ := Option.map_eq_some_iff.mp hplace
      exact htype place old

/-! ## New rows -/

/-- A default of the types before the command still fits. -/
theorem cellFits_default {t t' : Table} (h : Readies t t') {place : ℕ} {column : Column}
    (hcolumn : t'.columns[place]? = some column) :
    CellFits column.type
      ((t.columns.map fun column => column.type.defaultCell)[place]?.getD .missing) := by
  rw [List.getElem?_map]
  cases hold : t.columns[place]? with
  | none => exact cellFits_missing column.type
  | some old =>
    by_cases htype : old.type = .unknown
    · rw [Option.map_some, Option.getD_some, htype]
      exact cellFits_missing column.type
    · rw [h.known hold htype] at hcolumn
      cases hcolumn
      exact cellFits_defaultCell column.type

/-- A new row fits under the columns that were made ready for it. -/
theorem rowFits_newRow {t t' : Table} (h : Readies t t') {columns : OrderedMap (List String)}
    (hknown : ∀ entry ∈ columns.entries, t'.Known entry.1) (i : ℕ) :
    RowFits t'.columns
      (t'.newRow (t.columns.map fun column => column.type.defaultCell) columns i) := by
  rw [rowFits_iff]
  unfold newRow
  refine ⟨List.length_mapIdx, ?_⟩
  intro place column cell hcolumn hcell
  rw [List.getElem?_mapIdx, hcolumn, Option.map_some] at hcell
  cases hcell
  split
  · rename_i text htext
    -- a text is supplied only for a column that was made ready
    unfold suppliedText? at htext
    split at htext
    · rename_i hplace
      obtain ⟨texts, htexts, -⟩ := Option.bind_eq_some_iff.mp htext
      have hentry : (column.name, texts) ∈ columns.entries := by
        obtain ⟨before, after, hentries, -⟩ := List.lookup_eq_some_iff.mp htexts
        rw [hentries]
        exact List.mem_append_right before List.mem_cons_self
      obtain ⟨place', column', hplace', hcolumn', htype⟩ := hknown _ hentry
      rw [hplace] at hplace'
      cases hplace'
      rw [hcolumn] at hcolumn'
      cases hcolumn'
      exact cellFits_cast htype text
    · cases htext
  · exact cellFits_default h hcolumn

namespace WellFormed

variable {t : Table}

theorem append (h : t.WellFormed) (columns : OrderedMap (List String)) (rowCount : ℕ) :
    (t.append columns rowCount).WellFormed := by
  have hprepared := h.prepareEntries columns.entries
  unfold Table.append
  apply wellFormed_settleTypes
  · exact hprepared.nodup_names
  intro row hrow
  rcases List.mem_append.mp hrow with hold | hnew
  · exact hprepared.rows_fit row hold
  · obtain ⟨i, -, rfl⟩ := List.mem_map.mp hnew
    apply rowFits_newRow (readies_prepareEntries t columns.entries)
    intro entry hentry
    exact known_prepareEntries hentry

theorem assignColumn (h : t.WellFormed) (mask : List Bool) (name text : String) :
    (Table.assignColumn mask t name text).WellFormed := by
  have hadd := h.addColumn name (Cell.inferType_ne_unknown [text])
  have hplace := columnIndex?_addColumn t name (Cell.inferType [text])
  obtain ⟨column, hcolumn, -⟩ := exists_column hplace
  unfold Table.assignColumn
  simp only [hcolumn, Option.map_some, Option.getD_some]
  -- of the wider table, only that it is well formed and has the column there is used
  generalize t.addColumn name (Cell.inferType [text]) = t' at hadd hcolumn
  have hrow : ∀ row ∈ mapSelected (·.set (t.indexForColumn name) (Cell.cast text column.type))
      t'.rows mask, RowFits t'.columns row ∧ t'.rows ≠ [] := by
    intro row hrow
    obtain ⟨i, hi⟩ := List.mem_iff_getElem?.mp hrow
    rw [getElem?_mapSelected] at hi
    obtain ⟨old, hold, rfl⟩ := Option.map_eq_some_iff.mp hi
    have hmem := List.mem_of_getElem? hold
    have hrows : t'.rows ≠ [] := List.ne_nil_of_mem hmem
    have htype := hadd.types_known hrows column (List.mem_of_getElem? hcolumn)
    refine ⟨?_, hrows⟩
    split
    · exact (hadd.rows_fit old hmem).set hcolumn (cellFits_cast htype text)
    · exact hadd.rows_fit old hmem
  constructor
  · exact hadd.nodup_names
  · intro row hmem
    exact (hrow row hmem).1
  · intro hne
    obtain ⟨row, hmem⟩ := List.exists_mem_of_ne_nil _ hne
    exact hadd.types_known (hrow row hmem).2

theorem assign (h : t.WellFormed) (mask : List Bool) (assignments : Assignments) :
    (Table.assign mask t assignments).WellFormed := by
  unfold Table.assign
  induction assignments.entries generalizing t with
  | nil => exact h
  | cons entry entries ih => exact ih (h.assignColumn mask entry.1 entry.2)

/-! ## Commands -/

/-- Every change of a well formed table gives a well formed table. -/
theorem of_changes (h : t.WellFormed) {command : Command} {rows : ℕ} {t' : Table}
    (hchanges : t.Changes command rows t') : t'.WellFormed := by
  cases hchanges with
  | add values => exact h.append _ 1
  | addBatch columns => exact h.append columns rows
  | @update _ assignments mask _ _ _ => exact h.assign mask assignments
  | @delete _ _ mask _ _ _ _ => exact h.remove mask
  | deleteAll => exact wellFormed_empty

theorem after (h : t.WellFormed) (command : Command) : (t.after command).WellFormed := by
  unfold Table.after
  cases happly : t.apply command with
  | error cause => exact h
  | ok applied =>
    rcases apply_cases happly with hlooks | ⟨t', hwrote⟩
    · simp only [hlooks.changed, Option.getD_none]
      exact h
    · obtain ⟨rows, -, hchanges⟩ := hwrote.changes
      simp only [hwrote.changed, Option.getD_some]
      exact h.of_changes hchanges

/-- A table that a command shows is well formed, and has the columns of the table it comes from. -/
theorem of_shown (h : t.WellFormed) {command : Command} {applied : Applied}
    (happly : t.apply command = .ok applied) {u : Table} (hu : applied.report.table = some u) :
    u.WellFormed ∧ u.columns = t.columns := by
  rcases apply_cases happly with hlooks | ⟨t', hwrote⟩
  · rcases hlooks.shown u hu with rfl | ⟨mask, rfl⟩
    · exact ⟨h, rfl⟩
    · exact ⟨h.filter mask, rfl⟩
  · rw [hwrote.shown] at hu
    cases hu

end WellFormed

end Table
end TableShell
