import TableShell.Proofs.Effect.Preparing
import TableShell.Proofs.OrderedMap.Written
import TableShell.Proofs.Table.NewColumns

/-!
# The table after rows were appended

`Table.append` makes its columns ready one after the other, fills the new rows, and settles the
types that are still unknown. Of a well formed table this gives the table `appended`, which says of
each column and each cell at once what it is (`append_eq_appended`).

The proof follows the steps. A column that is given texts has its type once it is ready
(`columns_prepareColumns`), so the rows are filled by that type (`newRow_prepareColumns`); a column
that is given none keeps its type, and if that is unknown, it stands over missing cells only, which
settle for text (`settleColumn_ready`).
-/

namespace TableShell

namespace Column

/-- The type of an old column after texts were supplied: one that is known stays, and an unknown one
is that of its texts, or text if it has none. -/
def typeAfter (columns : OrderedMap (List String)) (column : Column) : ColumnType :=
  if column.type = .unknown then
    match columns.get? column.name with
    | some texts => Cell.inferType texts
    | none => .text
  else
    column.type

/-- The column with that type. -/
def after (columns : OrderedMap (List String)) (column : Column) : Column :=
  { column with type := column.typeAfter columns }

/-- The column with that type, unless it still waits for it. -/
def ready (columns : OrderedMap (List String)) (column : Column) : Column :=
  if (columns.get? column.name).isSome then column.after columns else column

variable {columns : OrderedMap (List String)} {column : Column}

theorem after_of_known (h : column.type ≠ .unknown) : column.after columns = column := by
  rw [after, typeAfter, if_neg h]

theorem after_of_texts {texts : List String} (h : column.type = .unknown)
    (htexts : columns.get? column.name = some texts) :
    column.after columns = { column with type := Cell.inferType texts } := by
  rw [after, typeAfter, if_pos h, htexts]

theorem after_of_none (h : column.type = .unknown) (hnone : columns.get? column.name = none) :
    column.after columns = { column with type := .text } := by
  rw [after, typeAfter, if_pos h, hnone]

theorem ready_of_some {texts : List String} (htexts : columns.get? column.name = some texts) :
    column.ready columns = column.after columns := by
  rw [ready, htexts, Option.isSome_some, if_pos rfl]

theorem ready_of_none (hnone : columns.get? column.name = none) :
    column.ready columns = column := by
  rw [ready, hnone, Option.isSome_none, if_neg Bool.false_ne_true]

theorem name_ready : (column.ready columns).name = column.name := by
  rw [ready]
  split <;> rfl

theorem typeAfter_ne_unknown : column.typeAfter columns ≠ .unknown := by
  rw [typeAfter]
  split
  · split
    · exact Cell.inferType_ne_unknown _
    · decide
  · assumption

end Column

namespace Table

/-- The new column of an entry. -/
def newColumn (entry : String × List String) : Column :=
  ⟨entry.1, Cell.inferType entry.2⟩

/-- The cell under an old column in the appended row of number `i`. -/
def oldColumnCell (columns : OrderedMap (List String)) (i : ℕ) (column : Column) : Cell :=
  match (columns.get? column.name).bind fun texts => texts[i]? with
  | some text => Cell.cast text (column.typeAfter columns)
  | none => column.type.defaultCell

/-- The cell under the new column of an entry in the appended row of number `i`. -/
def newColumnCell (i : ℕ) (entry : String × List String) : Cell :=
  match entry.2[i]? with
  | some text => Cell.cast text (Cell.inferType entry.2)
  | none => .missing

/-- The table with rows appended, column by column and cell by cell. -/
def appended (t : Table) (columns : OrderedMap (List String)) (rowCount : ℕ) : Table :=
  let added := t.newEntries columns.entries
  { columns := t.columns.map (Column.after columns) ++ added.map newColumn
    rows := t.rows.map (· ++ List.replicate added.length .missing) ++
      (List.range rowCount).map fun i =>
        t.columns.map (oldColumnCell columns i) ++ added.map (newColumnCell i) }

variable {t : Table} {columns : OrderedMap (List String)}

/-! ## Columns that are ready -/

/-- The name of a new entry stands behind the others, and each row is longer by a missing cell. -/
theorem prepareColumn_entry (t : Table) (entry : String × List String) :
    (t.prepareColumn entry.1 entry.2).columnNames
        = t.columnNames ++ (t.newEntries [entry]).map Prod.fst ∧
      (t.prepareColumn entry.1 entry.2).rows
        = t.rows.map (· ++ List.replicate (t.newEntries [entry]).length .missing) := by
  unfold prepareColumn
  split
  · rename_i hindex
    have hmem := List.mem_of_getElem? (getElem?_of_lastIndex? hindex)
    rw [newEntries_singleton_of_mem hmem]
    split
    · exact ⟨by simp [columnNames_setType], by simp [setType]⟩
    · exact ⟨by simp, by simp⟩
  · rw [addColumn_entry t entry]
    exact ⟨by simp [columnNames, Function.comp_def], rfl⟩

/-- The names that are new stand behind the others, and each row is longer by as many missing
cells. -/
theorem prepareEntries_spec (t : Table) {entries : List (String × List String)}
    (hkeys : (entries.map Prod.fst).Nodup) :
    (prepareEntries t entries).columnNames
        = t.columnNames ++ (t.newEntries entries).map Prod.fst ∧
      (prepareEntries t entries).rows
        = t.rows.map (· ++ List.replicate (t.newEntries entries).length .missing) := by
  induction entries generalizing t with
  | nil => simp [prepareEntries, newEntries]
  | cons entry entries ih =>
    rw [List.map_cons, List.nodup_cons] at hkeys
    obtain ⟨hfirst, hfirstRows⟩ := prepareColumn_entry t entry
    obtain ⟨hnames, hrows⟩ := ih (t.prepareColumn entry.1 entry.2) hkeys.2
    have hstep : prepareEntries t (entry :: entries)
        = prepareEntries (t.prepareColumn entry.1 entry.2) entries := rfl
    rw [hstep, hnames, hrows, newEntries_cons hkeys.1 hfirst, hfirst, hfirstRows]
    constructor
    · rw [List.map_append, List.append_assoc]
    · rw [List.map_map]
      refine List.map_congr_left fun row _ => ?_
      rw [Function.comp_apply, List.append_assoc, List.replicate_append_replicate,
        List.length_append]

theorem columnNames_prepareColumns (t : Table) (columns : OrderedMap (List String)) :
    (t.prepareColumns columns).columnNames
      = t.columnNames ++ (t.newEntries columns.entries).map Prod.fst :=
  (prepareEntries_spec t columns.nodup_keys).1

theorem rows_prepareColumns (t : Table) (columns : OrderedMap (List String)) :
    (t.prepareColumns columns).rows
      = t.rows.map (· ++ List.replicate (t.newEntries columns.entries).length .missing) :=
  (prepareEntries_spec t columns.nodup_keys).2

theorem nodup_columnNames_prepareColumns (hnames : t.columnNames.Nodup)
    (columns : OrderedMap (List String)) : (t.prepareColumns columns).columnNames.Nodup := by
  rw [columnNames_prepareColumns]
  exact nodup_append_newEntries hnames columns.nodup_keys

/-- A column that is found has its name, and stands at the place of the name. -/
theorem exists_place_of_column? {name : String} {column : Column}
    (h : t.column? name = some column) : ∃ place, t.columnIndex? name = some place ∧
      t.columns[place]? = some column ∧ column.name = name := by
  obtain ⟨place, hindex, hcolumn⟩ := column?_eq_some_iff.mp h
  obtain ⟨named, hnamed, hname⟩ := exists_column hindex
  obtain rfl : column = named := Option.some.inj (hcolumn.symm.trans hnamed)
  exact ⟨place, hindex, hcolumn, hname⟩

/-- An old column is ready at its old place. -/
theorem getElem?_columns_prepareColumns_old (hnames : t.columnNames.Nodup)
    (columns : OrderedMap (List String)) {place : ℕ} {column : Column}
    (hcolumn : t.columns[place]? = some column) :
    (t.prepareColumns columns).columns[place]? = some (column.ready columns) := by
  have hplace := columnIndex?_of_getElem? hnames hcolumn
  have hold : t.column? column.name = some column :=
    column?_eq_some_iff.mpr ⟨place, hplace, hcolumn⟩
  have hreadies := readies_prepareEntries t columns.entries
  have hplace' := hreadies.columnIndex?_eq hplace
  cases htexts : columns.get? column.name with
  | none =>
    have hsame := column?_prepareEntries_of_not_mem (t := t)
      (OrderedMap.not_mem_keys_of_get? htexts)
    rw [hold] at hsame
    obtain ⟨place', hindex, hat⟩ := column?_eq_some_iff.mp hsame
    obtain rfl : place = place' := Option.some.inj (hplace'.symm.trans hindex)
    rw [Column.ready_of_none htexts]
    exact hat
  | some texts =>
    rw [Column.ready_of_some htexts]
    by_cases htype : column.type = .unknown
    · obtain ⟨column', hcolumn', -, htype'⟩ := exists_column?_prepareColumns (t := t) htexts
      obtain ⟨place', hindex, hat, hname⟩ := exists_place_of_column? hcolumn'
      obtain rfl : place = place' := Option.some.inj (hplace'.symm.trans hindex)
      have hunknown : ∀ old, t.column? column.name = some old → old.type = .unknown := by
        intro old hfound
        rw [hold] at hfound
        cases hfound
        exact htype
      rw [hat, Column.after_of_texts htype htexts, ← htype' hunknown, ← hname]
    · rw [Column.after_of_known htype]
      exact hreadies.known hcolumn htype

/-- A new column stands behind the old ones, in the place of its entry. -/
theorem getElem?_columns_prepareColumns_new (hnames : t.columnNames.Nodup) {k : ℕ}
    {entry : String × List String} (hentry : (t.newEntries columns.entries)[k]? = some entry) :
    (t.prepareColumns columns).columns[t.columns.length + k]? = some (newColumn entry) := by
  obtain ⟨hmem, hnot⟩ := mem_newEntries.mp (List.mem_of_getElem? hentry)
  have hnone : t.column? entry.1 = none := by
    rw [column?, columnIndex?_eq_none_iff.mpr hnot]
    rfl
  obtain ⟨column, hcolumn, -, htype⟩ :=
    exists_column?_prepareColumns (t := t) (OrderedMap.get?_of_mem hmem)
  obtain ⟨place, hindex, hat, hname⟩ := exists_place_of_column? hcolumn
  -- names are distinct, so the column stands where its name is known to stand
  have hnames' := nodup_columnNames_prepareColumns hnames columns
  have hplace : (t.prepareColumns columns).columnNames[t.columns.length + k]? = some entry.1 := by
    rw [columnNames_prepareColumns, List.getElem?_append_right (by simp [columnNames])]
    simp [columnNames, hentry]
  obtain rfl : t.columns.length + k = place :=
    Option.some.inj (((lastIndex?_eq_some_iff hnames').mpr hplace).symm.trans hindex)
  have hinferred : column.type = Cell.inferType entry.2 := htype fun old hold => by
    rw [hnone] at hold
    cases hold
  rw [hat, newColumn, ← hinferred, ← hname]

/-- The columns when all are ready. -/
theorem columns_prepareColumns (hnames : t.columnNames.Nodup) (columns : OrderedMap (List String)) :
    (t.prepareColumns columns).columns
      = t.columns.map (Column.ready columns) ++ (t.newEntries columns.entries).map newColumn := by
  have hlength := congrArg List.length (columnNames_prepareColumns t columns)
  simp only [columnNames, List.length_append, List.length_map] at hlength
  apply List.ext_getElem?
  intro place
  rcases Nat.lt_or_ge place t.columns.length with hold | hnew
  · have hcolumn := List.getElem?_eq_getElem hold
    rw [getElem?_columns_prepareColumns_old hnames columns hcolumn,
      List.getElem?_append_left (by simpa using hold), List.getElem?_map, hcolumn]
    rfl
  · obtain ⟨k, rfl⟩ := Nat.exists_eq_add_of_le hnew
    rw [List.getElem?_append_right (by simp)]
    simp only [List.length_map, Nat.add_sub_cancel_left, List.getElem?_map]
    cases hentry : (t.newEntries columns.entries)[k]? with
    | some entry => exact getElem?_columns_prepareColumns_new hnames hentry
    | none =>
      rw [List.getElem?_eq_none_iff] at hentry
      exact List.getElem?_eq_none (by omega)

/-! ## Rows that are filled -/

/-- In a new row, the text stands that the list of the column has at the number of the row, cast to
the type of the column, or else the default. -/
theorem getElem?_newRow_of_nodup {prepared : Table} (hnames : prepared.columnNames.Nodup)
    (defaults : List Cell) (columns : OrderedMap (List String)) (i : ℕ) {place : ℕ}
    {column : Column} (hcolumn : prepared.columns[place]? = some column) :
    (prepared.newRow defaults columns i)[place]?
      = some (match (columns.get? column.name).bind fun texts => texts[i]? with
        | some text => Cell.cast text column.type
        | none => defaults[place]?.getD .missing) := by
  have hsupplied : prepared.suppliedText? columns i place column.name
      = (columns.get? column.name).bind fun texts => texts[i]? := by
    rw [suppliedText?, if_pos (columnIndex?_of_getElem? hnames hcolumn)]
  rw [← hsupplied, newRow, List.getElem?_mapIdx, hcolumn]
  rfl

/-- The new row of number `i`, over columns that are ready. -/
theorem newRow_prepareColumns (hnames : t.columnNames.Nodup) (columns : OrderedMap (List String))
    (i : ℕ) :
    (t.prepareColumns columns).newRow (t.columns.map fun column => column.type.defaultCell)
        columns i
      = t.columns.map (oldColumnCell columns i)
        ++ (t.newEntries columns.entries).map (newColumnCell i) := by
  have hnames' := nodup_columnNames_prepareColumns hnames columns
  have hlength := congrArg List.length (columns_prepareColumns hnames columns)
  simp only [List.length_append, List.length_map] at hlength
  apply List.ext_getElem?
  intro place
  rcases Nat.lt_or_ge place t.columns.length with hold | hnew
  · have hcolumn := List.getElem?_eq_getElem hold
    have hready := getElem?_columns_prepareColumns_old hnames columns hcolumn
    rw [getElem?_newRow_of_nodup hnames' _ columns i hready,
      List.getElem?_append_left (by simpa using hold), List.getElem?_map, List.getElem?_map,
      hcolumn, Option.map_some, Option.map_some, Option.getD_some, Column.name_ready, oldColumnCell]
    cases htexts : columns.get? t.columns[place].name with
    | none => rfl
    | some texts =>
      rw [Column.ready_of_some htexts]
      rfl
  · obtain ⟨k, rfl⟩ := Nat.exists_eq_add_of_le hnew
    rw [List.getElem?_append_right (by simp)]
    simp only [List.length_map, Nat.add_sub_cancel_left, List.getElem?_map]
    cases hentry : (t.newEntries columns.entries)[k]? with
    | some entry =>
      have hcolumn := getElem?_columns_prepareColumns_new hnames hentry
      have htexts : columns.get? (newColumn entry).name = some entry.2 :=
        OrderedMap.get?_of_mem (mem_newEntries.mp (List.mem_of_getElem? hentry)).1
      have hdefault : (t.columns.map fun column => column.type.defaultCell)[t.columns.length + k]?
          = none := List.getElem?_eq_none (by simp)
      rw [getElem?_newRow_of_nodup hnames' _ columns i hcolumn, htexts, hdefault]
      rfl
    | none =>
      rw [List.getElem?_eq_none_iff] at hentry
      refine List.getElem?_eq_none ?_
      rw [newRow, List.length_mapIdx]
      omega

/-! ## Types that are settled -/

theorem settleColumn_of_known {column : Column} (h : column.type ≠ .unknown) (place : ℕ) :
    t.settleColumn place column = column := by
  rw [settleColumn, if_neg h]

/-- A column of missing cells is one of texts. -/
theorem settleColumn_of_missing {column : Column} {place : ℕ} (h : column.type = .unknown)
    (hcells : ∀ cell ∈ t.cellsAt place, cell = .missing) :
    t.settleColumn place column = { column with type := .text } := by
  have hwithin : ColumnType.Within (ColumnType.mergeAll ((t.cellsAt place).map Cell.type))
      .unknown := by
    rw [ColumnType.mergeAll_within_iff, List.forall_mem_map]
    intro cell hcell
    rw [hcells cell hcell]
    decide
  rw [settleColumn, if_pos h, Cell.commonType, ColumnType.within_unknown_iff.mp hwithin]
  rfl

/-- A column that was made ready settles for its type after the command, over rows that are missing
in it if it was not. -/
theorem settleColumn_ready {column : Column} {place : ℕ}
    (h : column.type = .unknown → columns.get? column.name = none →
      ∀ cell ∈ t.cellsAt place, cell = .missing) :
    t.settleColumn place (column.ready columns) = column.after columns := by
  cases htexts : columns.get? column.name with
  | some texts =>
    rw [Column.ready_of_some htexts]
    exact settleColumn_of_known Column.typeAfter_ne_unknown place
  | none =>
    rw [Column.ready_of_none htexts]
    by_cases htype : column.type = .unknown
    · rw [settleColumn_of_missing htype (h htype htexts), Column.after_of_none htype htexts]
    · rw [settleColumn_of_known htype, Column.after_of_known htype]

/-- Once there are rows, columns that were made ready settle for their types after the command. -/
theorem columns_settleTypes_of_ready {t' : Table} {added : List (String × List String)}
    (hcolumns : t'.columns = t.columns.map (Column.ready columns) ++ added.map newColumn)
    (hrows : t'.rows ≠ [])
    (hmissing : ∀ {place : ℕ} {column : Column}, t.columns[place]? = some column →
      column.type = .unknown → columns.get? column.name = none →
        ∀ cell ∈ t'.cellsAt place, cell = .missing) :
    t'.settleTypes.columns = t.columns.map (Column.after columns) ++ added.map newColumn := by
  rw [settleTypes, List.isEmpty_eq_false_iff.mpr hrows, if_neg Bool.false_ne_true]
  show t'.columns.mapIdx t'.settleColumn = _
  rw [hcolumns, List.mapIdx_append]
  congr 1
  · apply List.ext_getElem?
    intro place
    rw [List.getElem?_mapIdx, List.getElem?_map, List.getElem?_map, Option.map_map]
    cases hcolumn : t.columns[place]? with
    | none => rfl
    | some column => exact congrArg some (settleColumn_ready (hmissing hcolumn))
  · apply List.ext_getElem?
    intro k
    rw [List.getElem?_mapIdx, List.getElem?_map, Option.map_map]
    cases added[k]? with
    | none => rfl
    | some entry => exact congrArg some (settleColumn_of_known (Cell.inferType_ne_unknown _) _)

/-! ## The whole command -/

/-- Without old rows, the cells of an unknown column that is given no texts are missing. -/
theorem missing_of_appended (hrows : t.rows = []) {rowCount place : ℕ} {column : Column}
    (hcolumn : t.columns[place]? = some column) (htype : column.type = .unknown)
    (hnone : columns.get? column.name = none) :
    ∀ cell ∈ (t.appended columns rowCount).cellsAt place, cell = .missing := by
  intro cell hcell
  obtain ⟨row, hrow, hcell⟩ := List.mem_filterMap.mp hcell
  simp only [appended, hrows, List.map_nil, List.nil_append] at hrow
  obtain ⟨i, -, rfl⟩ := List.mem_map.mp hrow
  have hlt := (List.getElem?_eq_some_iff.mp hcolumn).1
  rw [List.getElem?_append_left (by simpa using hlt), List.getElem?_map, hcolumn, Option.map_some,
    oldColumnCell, hnone, htype] at hcell
  exact (Option.some.inj hcell).symm

/-- Of a well formed table, appending rows gives the table that `appended` describes. -/
theorem append_eq_appended (h : t.WellFormed) (columns : OrderedMap (List String)) {rowCount : ℕ}
    (hcount : 1 ≤ rowCount) : t.append columns rowCount = t.appended columns rowCount := by
  have hrows : (t.prepareColumns columns).rows ++ (List.range rowCount).map
      ((t.prepareColumns columns).newRow (t.columns.map fun column => column.type.defaultCell)
        columns) = (t.appended columns rowCount).rows := by
    rw [rows_prepareColumns, funext (newRow_prepareColumns h.nodup_names columns)]
    rfl
  have hne : (t.appended columns rowCount).rows ≠ [] := by
    refine List.append_ne_nil_of_right_ne_nil _ ?_
    simpa using Nat.one_le_iff_ne_zero.mp hcount
  have hmissing : ∀ {place : ℕ} {column : Column}, t.columns[place]? = some column →
      column.type = .unknown → columns.get? column.name = none →
        ∀ cell ∈ (t.appended columns rowCount).cellsAt place, cell = .missing := by
    intro place column hcolumn htype
    -- a column of unknown type is only in a table without rows
    have hempty : t.rows = [] := by
      by_contra hne
      exact h.types_known hne column (List.mem_of_getElem? hcolumn) htype
    exact missing_of_appended hempty hcolumn htype
  have hcolumns : { t.prepareColumns columns with
      rows := (t.appended columns rowCount).rows }.settleTypes.columns
        = (t.appended columns rowCount).columns :=
    columns_settleTypes_of_ready (columns_prepareColumns h.nodup_names columns) hne hmissing
  unfold append
  simp only [hrows]
  exact congrArg₂ Table.mk hcolumns (rows_settleTypes _)

/-- Both commands that append rows are carried out over every well formed table, and give the table
that `appended` describes; `add` supplies each column with one text, for one row. -/
theorem apply_eq_appended (h : t.WellFormed) :
    (∀ columns rowCount, 1 ≤ rowCount → ∃ report, t.apply (.addBatch columns rowCount)
      = .ok ⟨report, some (t.appended columns rowCount)⟩) ∧
    ∀ values : Assignments, ∃ report, t.apply (.add values)
      = .ok ⟨report, some (t.appended (values.map fun text => [text]) 1)⟩ := by
  constructor
  · intro columns rowCount hcount
    rw [← append_eq_appended h columns hcount]
    exact ⟨_, rfl⟩
  · intro values
    rw [← append_eq_appended h (values.map fun text => [text]) (Nat.le_refl 1)]
    exact ⟨_, rfl⟩

/-- A table of headers only. -/
def headersOnly : Table :=
  ⟨[⟨"name", .unknown⟩, ⟨"age", .unknown⟩], []⟩

theorem wellFormed_headersOnly : headersOnly.WellFormed where
  nodup_names := by decide
  rows_fit := by simp [headersOnly]
  types_known := by simp [headersOnly]

/-- One of the two headers is given a list, which is shorter than the batch, and so is one of the
two new columns. -/
theorem apply_eq_appended_headersOnly :
    let columns : OrderedMap (List String) :=
      .ofList [("city", ["Bern", "Rome"]), ("age", ["30"]), ("member", ["true"])]
    headersOnly.WellFormed ∧ 1 ≤ 2 ∧
      ∃ report, headersOnly.apply (.addBatch columns 2)
        = .ok ⟨report, some
          ⟨[⟨"name", .text⟩, ⟨"age", .integer⟩, ⟨"city", .text⟩, ⟨"member", .boolean⟩],
            [[.missing, .integer 30, .text "Bern", .boolean true],
              [.missing, .missing, .text "Rome", .missing]]⟩⟩ := by
  intro columns
  have happended : headersOnly.appended columns 2
      = ⟨[⟨"name", .text⟩, ⟨"age", .integer⟩, ⟨"city", .text⟩, ⟨"member", .boolean⟩],
        [[.missing, .integer 30, .text "Bern", .boolean true],
          [.missing, .missing, .text "Rome", .missing]]⟩ := by decide +kernel
  obtain ⟨report, hreport⟩ :=
    (apply_eq_appended wellFormed_headersOnly).1 columns 2 (by decide)
  rw [happended] at hreport
  exact ⟨wellFormed_headersOnly, by decide, report, hreport⟩

end Table
end TableShell
