import TableShell.Proofs.Delimited.WrittenRows
import TableShell.Proofs.Except.Traversal

/-!
# Tables after they are written and read again

Types are not written, so a table that is read again has the types that its texts show, and its
cells are cast to them. `reload` gives that table without a text in between, and `read_write` says
that it is what the reader makes of the written table.
-/

namespace TableShell
namespace Delimited

open Text

/-! ## The table read again -/

/-- The type of the column at a position after the table was written and read: what the texts of
its cells look like, in common. -/
def reloadedType (t : Table) (index : ℕ) : ColumnType :=
  if t.rows.isEmpty then
    .unknown
  else
    (ColumnType.mergeAll (((t.cellsAt index).filter fun cell => !cell.isMissing).map
      fun cell => (Cell.infer cell.display).type)).settled

/-- The type that the text of a cell shows; a missing cell shows none. -/
def shownType (cell : Cell) : ColumnType :=
  if cell.isMissing then .unknown else (Cell.infer cell.display).type

/-- A cell after the table was written and read, in a column that then has the type. -/
def reloadedCell (type : ColumnType) (cell : Cell) : Cell :=
  if cell.isMissing then
    .missing
  else
    match Cell.cast cell.display type with
    | .missing => .text cell.display
    | cell => cell

/-- The table after it was written and read. -/
def reload (t : Table) : Table where
  columns := t.columns.mapIdx fun index column => ⟨column.name, reloadedType t index⟩
  rows := t.rows.map fun row =>
    row.mapIdx fun index cell => reloadedCell (reloadedType t index) cell

/-- What is missing stays missing, and nothing else becomes missing. -/
theorem isMissing_reloadedCell (type : ColumnType) (cell : Cell) :
    (reloadedCell type cell).isMissing = cell.isMissing := by
  rw [reloadedCell]
  split
  · rename_i h
    rw [h]
    rfl
  · rename_i h
    rw [Bool.not_eq_true] at h
    rw [h]
    split
    · rfl
    · rename_i hcast
      cases hcell : Cell.cast cell.display type <;> first | rfl | exact absurd hcell hcast

/-- In a column of texts, a cell that is not missing is kept as its text. -/
theorem reloadedCell_text {cell : Cell} (h : cell.isMissing = false) :
    reloadedCell .text cell = .text cell.display := by
  have hcast : Cell.cast cell.display .text = .missing ∨
      Cell.cast cell.display .text = .text cell.display := by
    rw [Cell.cast.eq_def]
    split
    · exact Or.inl rfl
    · exact Or.inr rfl
  rw [reloadedCell, h, if_neg Bool.false_ne_true]
  rcases hcast with hcast | hcast <;> rw [hcast]

/-! ## Written fields -/

section Fields

variable {delimiter : Char} {cell : Cell}

theorem isMissing_writtenField (hcell : cell ≠ .float .nan) :
    (writtenField delimiter cell).isMissing = cell.isMissing := by
  rcases Cell.eq_or_isValue hcell with rfl | ⟨s, rfl⟩ | hvalue
  · have hempty : meansMissing "" = true := by decide
    rw [writtenField, Field.isMissing, Field.blank, hempty]
    rfl
  · rw [writtenField, Field.isMissing]
    cases hmissing : meansMissing s with
    | false => rw [Bool.and_false]; rfl
    | true =>
      have hquotes : needsQuotes delimiter s = true := by
        simp only [needsQuotes, hmissing, Bool.true_or]
      rw [hquotes]
      rfl
  · rw [writtenField_of_isValue hvalue, Field.isMissing, Cell.meansMissing_display hvalue]
    cases cell <;> first | rfl | exact absurd hvalue id

/-- A field that is not missing has the text of its cell. -/
theorem text_writtenField (hmissing : cell.isMissing = false) :
    (writtenField delimiter cell).text = cell.display := by
  cases cell <;> first | rfl | cases hmissing

theorem type_writtenField (hcell : cell ≠ .float .nan) :
    (writtenField delimiter cell).type = shownType cell := by
  rw [Field.type, shownType, isMissing_writtenField hcell]
  cases hmissing : cell.isMissing with
  | true => rfl
  | false => rw [text_writtenField hmissing]

theorem cell_writtenField (type : ColumnType) (hcell : cell ≠ .float .nan) :
    (writtenField delimiter cell).cell type = reloadedCell type cell := by
  rw [Field.cell, isMissing_writtenField hcell, reloadedCell]
  cases hmissing : cell.isMissing with
  | true => rfl
  | false =>
    rw [text_writtenField hmissing, if_neg Bool.false_ne_true, if_neg Bool.false_ne_true]
    split
    · rename_i hquoted
      rw [Bool.and_eq_true, decide_eq_true_eq] at hquoted
      have htext := reloadedCell_text hmissing
      rw [reloadedCell, hmissing, if_neg Bool.false_ne_true] at htext
      rw [hquoted.2, htext]
    · rfl

end Fields

/-- The line `NA` stands for a row with one missing cell, as a blank field would. -/
theorem map_writtenFields {β : Type} (g : Field → β) (hg : g ⟨missingRow, false⟩ = g .blank)
    (delimiter : Char) (row : Row) :
    (writtenFields delimiter row).map g = row.map fun cell => g (writtenField delimiter cell) := by
  rw [writtenFields]
  split
  · rename_i hrow
    rw [hrow]
    exact congrArg ([·]) hg
  · rw [List.map_map]
    rfl

theorem length_writtenFields (delimiter : Char) (row : Row) :
    (writtenFields delimiter row).length = row.length := by
  have hlength := congrArg List.length (map_writtenFields (fun _ => ()) rfl delimiter row)
  rwa [List.length_map, List.length_map] at hlength

/-! ## Types of columns -/

/-- What shows no type does not count. -/
theorem foldl_merge_shownType (cells : List Cell) (start : ColumnType) :
    (cells.map shownType).foldl .merge start
      = ((cells.filter fun cell => !cell.isMissing).map
          fun cell => (Cell.infer cell.display).type).foldl .merge start := by
  induction cells generalizing start with
  | nil => rfl
  | cons cell cells ih =>
    rw [List.map_cons, List.foldl_cons, ih, List.filter_cons, shownType]
    cases cell.isMissing with
    | true => rw [if_pos rfl, ColumnType.merge_unknown]; rfl
    | false => rfl

theorem reloadedType_eq (t : Table) (index : ℕ) :
    reloadedType t index = if t.rows.isEmpty then .unknown
      else (ColumnType.mergeAll ((t.cellsAt index).map shownType)).settled := by
  rw [ColumnType.mergeAll, foldl_merge_shownType]
  rfl

/-- The types that the written rows show at a position. -/
theorem filterMap_type_writtenFields {delimiter : Char} {t : Table}
    (hcells : ∀ row ∈ t.rows, ∀ cell ∈ row, cell ≠ .float .nan) (index : ℕ) :
    (t.rows.map (writtenFields delimiter)).filterMap (fun row => row[index]?.map Field.type)
      = (t.cellsAt index).map shownType := by
  rw [List.filterMap_map, Table.cellsAt, List.map_filterMap]
  refine List.filterMap_congr fun row hrow => ?_
  have hna : Field.type ⟨missingRow, false⟩ = Field.type .blank := by decide
  have hmap := congrArg (·[index]?) (map_writtenFields Field.type hna delimiter row)
  simp only [List.getElem?_map] at hmap
  rw [Function.comp_apply, hmap]
  cases hcell : row[index]? with
  | none => rfl
  | some cell =>
    have hne := hcells row hrow cell (List.mem_of_getElem? hcell)
    rw [Option.map_some, Option.map_some, type_writtenField hne]

theorem columnType_written {delimiter : Char} {t : Table}
    (hcells : ∀ row ∈ t.rows, ∀ cell ∈ row, cell ≠ .float .nan) (index : ℕ) :
    columnType (t.rows.map (writtenFields delimiter)) index = reloadedType t index := by
  simp only [columnType, filterMap_type_writtenFields hcells, List.isEmpty_map, reloadedType_eq]
  split
  · rename_i hempty
    rw [Table.cellsAt, List.isEmpty_iff.mp hempty]
    rfl
  · rfl

/-! ## The written table is read -/

theorem repeatedName?_eq_none_iff {seen names : List String} :
    repeatedName? seen names = none ↔ names.Nodup ∧ ∀ name ∈ names, name ∉ seen := by
  induction names generalizing seen with
  | nil => simp [repeatedName?]
  | cons name names ih =>
    rw [repeatedName?, List.nodup_cons, List.forall_mem_cons]
    split
    · rename_i hseen
      exact iff_of_false (by simp) fun h => h.2.1 hseen
    · rename_i hseen
      rw [ih]
      constructor
      · rintro ⟨hnodup, hnot⟩
        exact ⟨⟨fun hmem => hnot name hmem List.mem_cons_self, hnodup⟩, hseen,
          fun other hother hmem => hnot other hother (List.mem_cons_of_mem _ hmem)⟩
      · rintro ⟨⟨hname, hnodup⟩, -, hnot⟩
        refine ⟨hnodup, fun other hother hmem => ?_⟩
        rcases List.mem_cons.mp hmem with rfl | hmem
        · exact hname hother
        · exact hnot other hother hmem

theorem getElem?_map_range {α : Type} (f : ℕ → α) {n i : ℕ} (h : i < n) :
    ((List.range n).map f)[i]? = some (f i) := by
  rw [List.getElem?_map, List.getElem?_range h, Option.map_some]

/-- The cells of a written row, read in columns of the types. -/
theorem zipWith_cell_writtenFields {delimiter : Char} {row : Row} (type : ℕ → ColumnType)
    (hcells : ∀ cell ∈ row, cell ≠ .float .nan) :
    List.zipWith Field.cell ((List.range row.length).map type) (writtenFields delimiter row)
      = row.mapIdx fun index cell => reloadedCell (type index) cell := by
  apply List.ext_getElem?
  intro i
  rw [List.getElem?_zipWith, List.getElem?_mapIdx]
  have hna : Field.cell (type i) ⟨missingRow, false⟩ = Field.cell (type i) .blank := by
    have hmissing : Field.isMissing ⟨missingRow, false⟩ = true := by decide
    have hmissing' : Field.blank.isMissing = true := by decide
    rw [Field.cell, Field.cell, hmissing, hmissing']
    rfl
  have hmap := congrArg (·[i]?) (map_writtenFields (Field.cell (type i)) hna delimiter row)
  simp only [List.getElem?_map] at hmap
  cases hcell : row[i]? with
  | none =>
    rw [hcell, Option.map_none, Option.map_eq_none_iff] at hmap
    rw [hmap]
    split <;> first | rfl | contradiction
  | some cell =>
    obtain ⟨hi, -⟩ := List.getElem?_eq_some_iff.mp hcell
    rw [hcell, Option.map_some] at hmap
    obtain ⟨field, hfield, hread⟩ := Option.map_eq_some_iff.mp hmap
    rw [getElem?_map_range type hi, hfield, Option.map_some]
    simp only
    rw [hread, cell_writtenField (type i) (hcells cell (List.mem_of_getElem? hcell))]

/-- The names of a table and the fields of its written rows make the table read again. -/
theorem tableOf_written {delimiter : Char} {t : Table}
    (hrows : ∀ row ∈ t.rows, row.length = t.columns.length)
    (hcells : ∀ row ∈ t.rows, ∀ cell ∈ row, cell ≠ .float .nan) :
    tableOf t.columnNames (t.rows.map (writtenFields delimiter)) = reload t := by
  have htypes : (List.range t.columnNames.length).map
        (columnType (t.rows.map (writtenFields delimiter)))
      = (List.range t.columns.length).map (reloadedType t) := by
    rw [Table.columnNames, List.length_map]
    exact List.map_congr_left fun index _ => columnType_written hcells index
  simp only [tableOf, reload, htypes, Table.mk.injEq]
  constructor
  · apply List.ext_getElem?
    intro i
    rw [List.getElem?_zipWith, List.getElem?_mapIdx, Table.columnNames, List.getElem?_map]
    cases hcolumn : t.columns[i]? with
    | none => rfl
    | some column =>
      obtain ⟨hi, -⟩ := List.getElem?_eq_some_iff.mp hcolumn
      rw [getElem?_map_range _ hi]
      rfl
  · rw [List.map_map]
    refine List.map_congr_left fun row hrow => ?_
    rw [Function.comp_apply, ← hrows row hrow]
    exact zipWith_cell_writtenFields (reloadedType t) (hcells row hrow)

/-- Filling up appends blank fields, as many as there are too few. -/
theorem fillUp_eq_ok_iff {width : ℕ} {record : Record} {fields : List Field} :
    fillUp width record = .ok fields ↔ record.fields.length ≤ width ∧
      fields = record.fields ++ List.replicate (width - record.fields.length) .blank := by
  rw [fillUp]
  split
  · exact iff_of_false (fun h => by cases h) (by omega)
  · rw [Except.ok.injEq]
    constructor
    · intro h
      exact ⟨by omega, h.symm⟩
    · intro h
      exact h.2.symm

/-- Records of full width are not filled up. -/
theorem fillUp_eq_ok {width : ℕ} {record : Record} (h : record.fields.length = width) :
    fillUp width record = .ok record.fields := by
  rw [fillUp_eq_ok_iff, h, Nat.sub_self, List.replicate_zero, List.append_nil]
  exact ⟨le_refl width, rfl⟩

/-- Whether the delimiter stands between fields only: it ends no line, it is no quote where it
stands between names, and it does not occur in what is written bare. -/
structure Separates (delimiter : Char) (t : Table) : Prop where
  ne_newline : delimiter ≠ '\n'
  ne_quote : 1 < t.columns.length → delimiter ≠ '"'
  not_bare : ∀ row ∈ t.rows, delimiter ∉ bareRow row

instance (delimiter : Char) (t : Table) : Decidable (Separates delimiter t) :=
  decidable_of_iff
    (delimiter ≠ '\n' ∧ (1 < t.columns.length → delimiter ≠ '"') ∧
      ∀ row ∈ t.rows, delimiter ∉ bareRow row)
    ⟨fun h => ⟨h.1, h.2.1, h.2.2⟩, fun h => ⟨h.ne_newline, h.ne_quote, h.not_bare⟩⟩

theorem IsDelimiter.separates {delimiter : Char} (hd : IsDelimiter delimiter) {t : Table}
    (hcells : ∀ row ∈ t.rows, ∀ cell ∈ row, cell ≠ .float .nan) : Separates delimiter t where
  ne_newline := hd.ne_newline
  ne_quote _ := hd.ne_quote
  not_bare row hrow hmem := by
    have hplain := isPlain_of_mem_bareRow (hcells row hrow) hmem
    rw [hd.not_plain] at hplain
    cases hplain

/-- What is read of a written table depends on the fields that its rows are read as. -/
theorem exists_read_write {delimiter : Char} {t : Table} (hnewline : delimiter ≠ '\n')
    (hquote : 1 < t.columns.length → delimiter ≠ '"') (hcolumns : t.columns ≠ [])
    (hnames : t.columnNames.Nodup) (hrows : ∀ row ∈ t.rows, row.length = t.columns.length)
    (hcells : ∀ row ∈ t.rows, ∀ cell ∈ row, cell ≠ .float .nan) :
    ∃ body : List Record, body.map Record.fields = t.rows.map (rowFields delimiter) ∧
      read delimiter (write delimiter t)
        = (body.mapM (fillUp t.columns.length)).map (tableOf t.columnNames) := by
  obtain ⟨rs, hrecords, hfields⟩ := records_write hnewline hquote hcolumns hrows hcells
  obtain ⟨header, body, rfl, hheader, hbody⟩ := List.map_eq_cons_iff.mp hfields
  have hheadernames : header.fields.map Field.text = t.columnNames := by
    rw [hheader, headerFields, List.map_map]
    rfl
  have hnone : repeatedName? [] t.columnNames = none :=
    repeatedName?_eq_none_iff.mpr ⟨hnames, fun _ _ hmem => by cases hmem⟩
  refine ⟨body, hbody, ?_⟩
  rw [read, hrecords]
  simp only [bind, Except.bind, ofRecords, hheadernames, hnone]
  rw [Table.columnNames, List.length_map]

/-- A table with columns of distinct names, with rows of their number and no cell that is not a
number, is read from its text as `reload` says, if the delimiter stands between fields only. -/
theorem read_write_of_separates {delimiter : Char} {t : Table} (hd : Separates delimiter t)
    (hcolumns : t.columns ≠ []) (hnames : t.columnNames.Nodup)
    (hrows : ∀ row ∈ t.rows, row.length = t.columns.length)
    (hcells : ∀ row ∈ t.rows, ∀ cell ∈ row, cell ≠ .float .nan) :
    read delimiter (write delimiter t) = .ok (reload t) := by
  obtain ⟨body, hbody, hread⟩ :=
    exists_read_write hd.ne_newline hd.ne_quote hcolumns hnames hrows hcells
  rw [List.map_congr_left fun row hrow => rowFields_of_not_mem (hd.not_bare row hrow)] at hbody
  have hfill : body.mapM (fillUp t.columns.length)
      = .ok (t.rows.map (writtenFields delimiter)) := by
    rw [Traversal.mapM_eq_ok_iff, ← hbody, List.forall₂_map_right_iff, List.forall₂_same]
    intro record hrecord
    refine fillUp_eq_ok ?_
    have hmem : record.fields ∈ t.rows.map (writtenFields delimiter) :=
      hbody ▸ List.mem_map_of_mem hrecord
    obtain ⟨row, hrow, hwritten⟩ := List.mem_map.mp hmem
    rw [← hwritten, length_writtenFields, hrows row hrow]
  rw [hread, hfill]
  exact congrArg Except.ok (tableOf_written hrows hcells)

/-- With a delimiter that no written value holds, every such table is read from its text as `reload`
says. -/
theorem read_write {delimiter : Char} (hd : IsDelimiter delimiter) {t : Table}
    (hcolumns : t.columns ≠ []) (hnames : t.columnNames.Nodup)
    (hrows : ∀ row ∈ t.rows, row.length = t.columns.length)
    (hcells : ∀ row ∈ t.rows, ∀ cell ∈ row, cell ≠ .float .nan) :
    read delimiter (write delimiter t) = .ok (reload t) :=
  read_write_of_separates (hd.separates hcells) hcolumns hnames hrows hcells

/-! ## What stays the same -/

theorem columnNames_reload (t : Table) : (reload t).columnNames = t.columnNames := by
  apply List.ext_getElem?
  intro i
  simp only [Table.columnNames, reload, List.getElem?_map, List.getElem?_mapIdx, Option.map_map]
  rfl

theorem length_rows_reload (t : Table) : (reload t).rows.length = t.rows.length :=
  List.length_map _

/-- The cell of a row and a position, if the table has it. -/
def cellAt? (t : Table) (i j : ℕ) : Option Cell :=
  t.rows[i]?.bind fun row => row[j]?

theorem cellAt?_reload (t : Table) (i j : ℕ) :
    cellAt? (reload t) i j = (cellAt? t i j).map (reloadedCell (reloadedType t j)) := by
  rw [cellAt?, cellAt?, reload, List.getElem?_map]
  cases t.rows[i]? with
  | none => rfl
  | some row => rw [Option.map_some, Option.bind_some, Option.bind_some, List.getElem?_mapIdx]

/-- A cell is missing after the table was written and read exactly if it was before. -/
theorem cellAt?_reload_eq_missing (t : Table) (i j : ℕ) :
    cellAt? (reload t) i j = some .missing ↔ cellAt? t i j = some .missing := by
  have hmissing : ∀ cell : Cell, cell = .missing ↔ cell.isMissing = true := by
    intro cell
    cases cell <;> simp [Cell.isMissing]
  rw [cellAt?_reload]
  cases cellAt? t i j with
  | none => simp
  | some cell =>
    rw [Option.map_some, Option.some_inj, Option.some_inj, hmissing, hmissing,
      isMissing_reloadedCell]

/-- The exact meaning of writing and reading: the names and the number of rows stay, the types are
those that the texts show, and each cell is the cast of its text, missing only if it was. -/
theorem read_write_reload {delimiter : Char} (hd : IsDelimiter delimiter) {t : Table}
    (hcolumns : t.columns ≠ []) (hnames : t.columnNames.Nodup)
    (hrows : ∀ row ∈ t.rows, row.length = t.columns.length)
    (hcells : ∀ row ∈ t.rows, ∀ cell ∈ row, cell ≠ .float .nan) :
    ∃ t', read delimiter (write delimiter t) = .ok t' ∧
      t'.columnNames = t.columnNames ∧ t'.rows.length = t.rows.length ∧
      (∀ i j, cellAt? t' i j = some .missing ↔ cellAt? t i j = some .missing) ∧
      t'.columns = t.columns.mapIdx (fun j column => ⟨column.name, reloadedType t j⟩) ∧
      ∀ i j, cellAt? t' i j = (cellAt? t i j).map (reloadedCell (reloadedType t j)) :=
  ⟨reload t, read_write hd hcolumns hnames hrows hcells, columnNames_reload t,
    length_rows_reload t, cellAt?_reload_eq_missing t, rfl, cellAt?_reload t⟩

/-- A table with names, texts and a missing row that need care. -/
def carefulTable : Table :=
  ⟨[⟨"a;b", .integer⟩], [[.text "NA"], [.missing], [.text "x\"\ny"], [.text " 5"], [.boolean true]]⟩

theorem read_write_reload_careful :
    write ';' carefulTable = "\"a;b\"\n\"NA\"\nNA\n\"x\"\"\ny\"\n\" 5\"\ntrue\n" ∧
      ∃ t', read ';' (write ';' carefulTable) = .ok t' ∧ t'.columnNames = ["a;b"] ∧
        t'.rows.length = 5 ∧
        ∀ i j, cellAt? t' i j = some .missing ↔ cellAt? carefulTable i j = some .missing := by
  refine ⟨by decide +kernel, ?_⟩
  obtain ⟨t', hread, hnames, hlength, hmissing, -⟩ :=
    read_write_reload (t := carefulTable) (show IsDelimiter ';' by decide) (by decide) (by decide)
      (by decide) (by decide)
  exact ⟨t', hread, hnames, hlength, hmissing⟩

end Delimited
end TableShell
