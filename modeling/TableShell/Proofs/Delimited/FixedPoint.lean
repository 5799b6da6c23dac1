import TableShell.Proofs.Cell.Coercion
import TableShell.Proofs.Cell.CommonType
import TableShell.Proofs.Delimited.Reload

/-!
# Loaded tables that are written and read again

The cells of a loaded table come back as they are (`reloadedCell_cell`), and so do the types of its
columns, but for columns of floating point numbers: one comes back as such exactly if the text of
some number in it is no whole number of 64 bits (`reloadedType_tableOf`). From `10¹⁶` on, whole
numbers are written without a point, so a column of nothing else does not come back.
-/

namespace TableShell
namespace Delimited

open Text ColumnType

/-! ## What a text is read as -/

theorem fields_ne_nil (r : Reading) : r.fields ≠ [] := by
  intro hnil
  rw [Reading.fields, List.reverse_eq_nil_iff] at hnil
  cases hnil

/-- A record that ends has the fields that were read. -/
theorem fields_of_record? {r : Reading} {record : Record}
    (h : r.record? = some record ∨ r.lastRecord? = some record) : record.fields = r.fields := by
  rw [Reading.record?, Reading.lastRecord?] at h
  rcases h with h | h
  · split at h
    · cases h
    · rw [← Option.some.inj h]
  · split at h
    · cases h
    · rw [← Option.some.inj h]

/-- Every record has a field, and what holds of a field as soon as it is finished, whatever was read
of it, holds of all fields of all records. -/
theorem forall_fields_of_scan {delimiter : Char} {r : Reading} {cs : List Char}
    {records : List Record} {P : Field → Prop} (hfield : ∀ r : Reading, P r.field)
    (hdone : ∀ f ∈ r.done, P f) (h : scan delimiter r cs = .ok records) :
    ∀ record ∈ records, record.fields ≠ [] ∧ ∀ f ∈ record.fields, P f := by
  have hrecord : ∀ {r : Reading} {record : Record}, (∀ f ∈ r.done, P f) →
      (r.record? = some record ∨ r.lastRecord? = some record) →
      record.fields ≠ [] ∧ ∀ f ∈ record.fields, P f := by
    intro r record hdone h
    rw [fields_of_record? h]
    refine ⟨fields_ne_nil r, fun f hf => ?_⟩
    rcases List.mem_cons.mp (List.mem_reverse.mp hf) with rfl | hf
    · exact hfield r
    · exact hdone f hf
  have hbreak : ∀ {r : Reading} {rest : Except Error (List Record)} {records : List Record},
      (∀ f ∈ r.done, P f) → rest.map (r.record?.toList ++ ·) = .ok records →
      (∀ {later}, rest = .ok later →
        ∀ record ∈ later, record.fields ≠ [] ∧ ∀ f ∈ record.fields, P f) →
      ∀ record ∈ records, record.fields ≠ [] ∧ ∀ f ∈ record.fields, P f := by
    intro r rest records hdone h hrest record hmem
    obtain ⟨later, hlater, rfl⟩ := Traversal.map_eq_ok_iff.mp h
    rcases List.mem_append.mp hmem with hmem | hmem
    · exact hrecord hdone (Or.inl (Option.mem_toList.mp hmem))
    · exact hrest hlater record hmem
  have hnone : ∀ f ∈ ([] : List Field), P f := fun f hf => by cases hf
  fun_induction scan delimiter r cs generalizing records
  case case1 => cases h
  case case2 =>
    rw [← Except.ok.inj h]
    exact fun record hmem => hrecord hdone (Or.inr (Option.mem_toList.mp hmem))
  case case7 ih => exact ih (List.forall_mem_cons.mpr ⟨hfield _, hdone⟩) h
  case case8 ih => exact hbreak hdone h (ih hnone)
  case case9 ih => exact hbreak hdone h (ih hnone)
  case case10 ih => exact hbreak hdone h (ih hnone)
  -- all other steps read on in the same field
  all_goals
    rename_i ih
    exact ih hdone h

/-- What is read is the table of the names in the first record and the fields of the others, filled
up to their number. -/
theorem exists_records_of_read {delimiter : Char} {s : String} {t : Table}
    (h : read delimiter s = .ok t) :
    ∃ header body rows, records delimiter s = .ok (header :: body) ∧
      (header.fields.map Field.text).Nodup ∧
      body.mapM (fillUp header.fields.length) = .ok rows ∧
      t = tableOf (header.fields.map Field.text) rows := by
  obtain ⟨records, hrecords, h⟩ := Traversal.bind_eq_ok_iff.mp h
  cases records with
  | nil => cases h
  | cons header body =>
    simp only [ofRecords] at h
    split at h
    · cases h
    · rename_i hnone
      obtain ⟨rows, hrows, rfl⟩ := Traversal.map_eq_ok_iff.mp h
      rw [List.length_map] at hrows
      exact ⟨header, body, rows, hrecords, (repeatedName?_eq_none_iff.mp hnone).1, hrows, rfl⟩

/-- A text is read as the table of some distinct names and of rows of as many fields. -/
theorem exists_tableOf_of_read {delimiter : Char} {s : String} {t : Table}
    (h : read delimiter s = .ok t) :
    ∃ names rows, t = tableOf names rows ∧ names ≠ [] ∧ names.Nodup ∧
      ∀ row ∈ rows, row.length = names.length := by
  obtain ⟨header, body, rows, hrecords, hnodup, hrows, rfl⟩ := exists_records_of_read h
  have hheader := forall_fields_of_scan (P := fun _ => True) (fun _ => trivial)
    (fun _ _ => trivial) hrecords header List.mem_cons_self
  refine ⟨_, rows, rfl, ?_, hnodup, fun row hrow => ?_⟩
  · rw [Ne, List.map_eq_nil_iff]
    exact hheader.1
  · obtain ⟨record, -, hfill⟩ := Traversal.exists_of_mem_mapM hrows hrow
    obtain ⟨hwidth, rfl⟩ := fillUp_eq_ok_iff.mp hfill
    rw [List.length_append, List.length_replicate, List.length_map]
    omega

/-! ## The cell of a field -/

section Fields

variable {f : Field} {type : ColumnType}

/-- A field in a column: nothing, its text, or a value of the type. -/
theorem cell_cases (h : type ≠ .unknown) :
    (f.isMissing = true ∧ f.cell type = .missing) ∨
    (f.isMissing = false ∧ (f.cell type = .text f.text ∨
      (meansMissing f.text = false ∧ (f.cell type).IsValue ∧ (f.cell type).type = type))) := by
  rw [Field.cell]
  cases f.isMissing with
  | true => exact Or.inl ⟨rfl, rfl⟩
  | false =>
    rw [if_neg Bool.false_ne_true]
    refine Or.inr ⟨rfl, ?_⟩
    split
    · exact Or.inl rfl
    · rcases Cell.cast_cases f.text h with ⟨hcast, -⟩ | ⟨hmissing, hcast | ⟨hvalue, htype⟩⟩
      · rw [hcast]
        exact Or.inl rfl
      · rw [hcast]
        exact Or.inl rfl
      · split
        · exact Or.inl rfl
        · exact Or.inr ⟨hmissing, hvalue, htype⟩

theorem cell_ne_nan (h : type ≠ .unknown) : f.cell type ≠ .float .nan := by
  intro hnan
  rcases cell_cases (f := f) h with ⟨-, hcell⟩ | ⟨-, hcell | ⟨-, hvalue, -⟩⟩
  · rw [hcell] at hnan
    cases hnan
  · rw [hcell] at hnan
    cases hnan
  · rw [hnan] at hvalue
    exact hvalue rfl

/-- A cell that was loaded comes back as it is, if its column has its type again. -/
theorem reloadedCell_cell (h : type ≠ .unknown) :
    reloadedCell type (f.cell type) = f.cell type := by
  rcases cell_cases (f := f) h with ⟨-, hcell⟩ | ⟨hmissing, hcell | ⟨-, hvalue, htype⟩⟩
  · rw [hcell]
    rfl
  · by_cases htext : type = .text
    · rw [hcell, htext]
      exact reloadedCell_text rfl
    · have hcast := hcell
      rw [Field.cell, hmissing, if_neg Bool.false_ne_true, if_neg (by simp [htext])] at hcast
      rw [hcell]
      exact hcast
  · have hcast := Cell.cast_display hvalue
    rw [htype] at hcast
    rw [reloadedCell, hcast]
    revert hvalue
    cases f.cell type with
    | missing => exact False.elim
    | text s => exact False.elim
    | _ => exact fun _ => rfl

/-- What looks like a floating point number is one in a column of them. -/
theorem cell_of_type_float (h : f.type = .float) : ∃ x, f.cell .float = .float x := by
  rw [Field.type] at h
  split at h
  · cases h
  · rename_i hmissing
    rcases Cell.infer_cases f.text with ⟨i, hinfer, -⟩ | ⟨x, -, hnumber, hx, -⟩ | ⟨b, hinfer⟩ |
      hinfer | ⟨hinfer, -⟩
    · rw [hinfer] at h
      cases h
    · have hcast : Cell.cast f.text .float = .float x := by
        rw [Cell.cast.eq_def, Cell.meansMissing_of_readNumber? hnumber hx,
          if_neg Bool.false_ne_true]
        simp only [hnumber, Option.map_some, Option.getD_some]
      refine ⟨x, ?_⟩
      rw [Field.cell, if_neg hmissing, hcast, if_neg (by simp)]
    all_goals
      rw [hinfer] at h
      cases h

/-- A field that shows no type, and yet holds something, means that there is no value. -/
theorem meansMissing_of_type_unknown (hmissing : f.isMissing = false) (h : f.type = .unknown) :
    meansMissing f.text = true := by
  rw [Field.type, hmissing, if_neg Bool.false_ne_true] at h
  rcases Cell.infer_cases f.text with ⟨_, hinfer, -⟩ | ⟨_, hinfer, -⟩ | ⟨_, hinfer⟩ | hinfer |
    ⟨-, hnan⟩
  case inr.inr.inr.inr =>
    rw [meansMissing, hnan, Bool.or_true]
  all_goals
    rw [hinfer] at h
    cases h

/-! ## The type that a loaded cell shows -/

/-- A field that was kept as text shows the same type again. -/
theorem shownType_text (hmissing : f.isMissing = false) : shownType (.text f.text) = f.type := by
  rw [Field.type, hmissing, if_neg Bool.false_ne_true]
  rfl

theorem type_of_isMissing (hmissing : f.isMissing = true) : f.type = .unknown := by
  rw [Field.type, hmissing, if_pos rfl]

theorem shownType_float {x : Binary64} (h : x ≠ .nan) :
    shownType (.float x)
      = if (readInteger? (Cell.float x).display).isSome then .integer else .float :=
  Cell.infer_display_float h

/-- Floating point numbers apart, the text of a value shows its type. -/
theorem shownType_of_isValue {cell : Cell} (h : cell.IsValue) (hfloat : cell.type ≠ .float) :
    shownType cell = cell.type := by
  cases cell with
  | integer i => exact congrArg Cell.type (Cell.infer_display_integer i)
  | float x => exact absurd rfl hfloat
  | boolean b => exact congrArg Cell.type (Cell.infer_display_boolean b)
  | text s => exact absurd h id
  | missing => exact absurd h id

/-- But for columns of floating point numbers, a loaded cell shows the type of its field. -/
theorem shownType_cell (h : type ≠ .unknown) (hfloat : type ≠ .float)
    (hwithin : Within f.type type) : shownType (f.cell type) = f.type := by
  rcases cell_cases (f := f) h with ⟨hmissing, hcell⟩ | ⟨hmissing, hcell | ⟨hword, hvalue, htype⟩⟩
  · rw [hcell, type_of_isMissing hmissing]
    rfl
  · rw [hcell, shownType_text hmissing]
  · have hknown : f.type ≠ .unknown := by
      intro hunknown
      rw [meansMissing_of_type_unknown hmissing hunknown] at hword
      cases hword
    have htext : type ≠ .text := by
      rintro rfl
      revert hvalue htype
      cases f.cell .text <;> simp [Cell.IsValue, Cell.type]
    rw [shownType_of_isValue hvalue (by rwa [htype]), htype]
    exact (eq_of_within hwithin hknown hfloat htext).symm

/-- In a column of floating point numbers, a cell shows that type only if it is one whose text is no
whole number of 64 bits. -/
theorem shownType_cell_float (hwithin : Within f.type .float) :
    Within (shownType (f.cell .float)) .integer ∨
      (shownType (f.cell .float) = .float ∧
        ∃ x, f.cell .float = .float x ∧ readInteger? (Cell.float x).display = none) := by
  have hknown : ColumnType.float ≠ .unknown := by decide
  rcases cell_cases (f := f) hknown with
    ⟨-, hcell⟩ | ⟨hmissing, hcell | ⟨-, hvalue, htype⟩⟩
  · rw [hcell]
    exact Or.inl (unknown_merge _)
  · rw [hcell, shownType_text hmissing]
    rcases within_float_iff.mp hwithin with hinteger | hfloat
    · exact Or.inl hinteger
    · obtain ⟨x, hx⟩ := cell_of_type_float hfloat
      rw [hcell] at hx
      cases hx
  · obtain ⟨x, hx⟩ : ∃ x, f.cell .float = .float x := by
      revert htype
      cases f.cell .float <;> simp [Cell.type]
    rw [hx] at hvalue ⊢
    rw [shownType_float hvalue]
    cases hread : readInteger? (Cell.float x).display with
    | some i => exact Or.inl (within_refl _)
    | none => exact Or.inr ⟨rfl, x, rfl, hread⟩

end Fields

/-! ## The types of a loaded table -/

section Columns

variable {names : List String} {rows : List (List Field)} {j : ℕ}

/-- The fields of the rows at a position. -/
def fieldsAt (rows : List (List Field)) (j : ℕ) : List Field :=
  rows.filterMap fun row => row[j]?

theorem columnType_eq (hrows : rows ≠ []) (j : ℕ) :
    columnType rows j = (mergeAll ((fieldsAt rows j).map Field.type)).settled := by
  rw [columnType, fieldsAt, List.map_filterMap, if_neg (by rwa [List.isEmpty_iff])]

theorem columnType_ne_unknown (hrows : rows ≠ []) (j : ℕ) : columnType rows j ≠ .unknown := by
  rw [columnType_eq hrows]
  exact settled_ne_unknown _

/-- A cell is that of the field at its position. -/
theorem getElem?_zipWith_cell {n : ℕ} (hj : j < n) (type : ℕ → ColumnType) (fields : List Field) :
    (List.zipWith Field.cell ((List.range n).map type) fields)[j]?
      = fields[j]?.map (Field.cell (type j)) := by
  rw [List.getElem?_zipWith, getElem?_map_range _ hj]
  cases fields[j]? <;> rfl

theorem getElem?_zipWith_cell_none {n : ℕ} (hj : ¬ j < n) (type : ℕ → ColumnType)
    (fields : List Field) :
    (List.zipWith Field.cell ((List.range n).map type) fields)[j]? = none := by
  rw [List.getElem?_eq_none]
  rw [List.length_zipWith, List.length_map, List.length_range]
  omega

theorem cellsAt_tableOf (hj : j < names.length) :
    (tableOf names rows).cellsAt j = (fieldsAt rows j).map (Field.cell (columnType rows j)) := by
  rw [Table.cellsAt, tableOf, fieldsAt, List.filterMap_map, List.map_filterMap]
  exact List.filterMap_congr fun row _ => getElem?_zipWith_cell hj _ row

/-- In a column of floating point numbers, the texts of the cells show that type together exactly if
one of them does. -/
theorem mergeAll_shownType_eq_float_iff {fields : List Field}
    (hwithin : ∀ f ∈ fields, Within f.type .float) :
    mergeAll ((fields.map (Field.cell .float)).map shownType) = .float ↔
      ∃ x, .float x ∈ fields.map (Field.cell .float) ∧
        readInteger? (Cell.float x).display = none := by
  rw [mergeAll_eq_float_iff, List.map_map]
  constructor
  · rintro ⟨-, hmem⟩
    obtain ⟨f, hf, hshows⟩ := List.mem_map.mp hmem
    rw [Function.comp_apply] at hshows
    rcases shownType_cell_float (hwithin f hf) with hinteger | ⟨-, x, hx, hread⟩
    · rw [hshows] at hinteger
      exact absurd hinteger (by decide)
    · exact ⟨x, List.mem_map.mpr ⟨f, hf, hx⟩, hread⟩
  · rintro ⟨x, hmem, hread⟩
    obtain ⟨f, hf, hx⟩ := List.mem_map.mp hmem
    refine ⟨fun type htype => ?_, List.mem_map.mpr ⟨f, hf, ?_⟩⟩
    · obtain ⟨g, hg, rfl⟩ := List.mem_map.mp htype
      rw [within_float_iff]
      exact (shownType_cell_float (hwithin g hg)).imp id And.left
    · have hne : x ≠ .nan := by
        rintro rfl
        exact cell_ne_nan (by decide) hx
      rw [Function.comp_apply, hx, shownType_float hne, hread]
      rfl

/-- A column has the same type again, unless it is one of floating point numbers that all show
whole numbers of 64 bits. -/
theorem reloadedType_tableOf (hj : j < names.length) :
    reloadedType (tableOf names rows) j = columnType rows j ↔
      (columnType rows j = .float → ∃ x, .float x ∈ (tableOf names rows).cellsAt j ∧
        readInteger? (Cell.float x).display = none) := by
  by_cases hrows : rows = []
  · subst hrows
    exact iff_of_true rfl fun h => by cases h
  have hshown : reloadedType (tableOf names rows) j = (mergeAll
      (((fieldsAt rows j).map (Field.cell (columnType rows j))).map shownType)).settled := by
    rw [reloadedType_eq, cellsAt_tableOf hj, if_neg]
    rw [List.isEmpty_iff, tableOf, List.map_eq_nil_iff]
    exact hrows
  have hwithin : ∀ f ∈ fieldsAt rows j, Within f.type (columnType rows j) := by
    intro f hf
    rw [columnType_eq hrows]
    exact (within_mergeAll (List.mem_map_of_mem hf)).settled
  rw [hshown, cellsAt_tableOf hj]
  by_cases hfloat : columnType rows j = .float
  · rw [hfloat] at hwithin ⊢
    rw [settled_eq_iff (by decide) (by decide), mergeAll_shownType_eq_float_iff hwithin]
    exact ⟨fun h _ => h, fun h => h rfl⟩
  · have hsame : (fieldsAt rows j).map (shownType ∘ Field.cell (columnType rows j))
        = (fieldsAt rows j).map Field.type :=
      List.map_congr_left fun f hf =>
        shownType_cell (columnType_ne_unknown hrows j) hfloat (hwithin f hf)
    refine iff_of_true ?_ fun h => absurd h hfloat
    rw [List.map_map, hsame, columnType_eq hrows]

theorem columns_tableOf (hj : j < names.length) :
    (tableOf names rows).columns[j]? = some ⟨names[j], columnType rows j⟩ := by
  rw [tableOf, List.getElem?_zipWith, getElem?_map_range _ hj, List.getElem?_eq_getElem hj]

theorem length_columns_tableOf (names : List String) (rows : List (List Field)) :
    (tableOf names rows).columns.length = names.length := by
  rw [tableOf, List.length_zipWith, List.length_map, List.length_range, Nat.min_self]

theorem columnNames_tableOf (names : List String) (rows : List (List Field)) :
    (tableOf names rows).columnNames = names := by
  apply List.ext_getElem
  · rw [Table.columnNames, List.length_map, length_columns_tableOf]
  · intro i hi hj
    have hcolumn : (tableOf names rows).columns[i]? = some ⟨names[i], columnType rows i⟩ :=
      columns_tableOf hj
    obtain ⟨_, hcolumn⟩ := List.getElem?_eq_some_iff.mp hcolumn
    simp only [Table.columnNames, List.getElem_map, hcolumn]

/-- A loaded table has no cell that is not a number. -/
theorem ne_nan_of_mem_tableOf {row : Row} (hrow : row ∈ (tableOf names rows).rows) {cell : Cell}
    (hcell : cell ∈ row) : cell ≠ .float .nan := by
  obtain ⟨fields, hfields, rfl⟩ := List.mem_map.mp hrow
  have hrows : rows ≠ [] := List.ne_nil_of_mem hfields
  obtain ⟨j, hj⟩ := List.mem_iff_getElem?.mp hcell
  by_cases hlt : j < names.length
  · rw [getElem?_zipWith_cell hlt] at hj
    obtain ⟨f, -, rfl⟩ := Option.map_eq_some_iff.mp hj
    exact cell_ne_nan (columnType_ne_unknown hrows j)
  · rw [getElem?_zipWith_cell_none hlt] at hj
    cases hj

/-- The cells of a loaded row come back as they are, where the columns have their types again. -/
theorem mapIdx_reloadedCell {n : ℕ} {type type' : ℕ → ColumnType}
    (htype : ∀ j < n, type' j = type j ∧ type j ≠ .unknown) (fields : List Field) :
    (List.zipWith Field.cell ((List.range n).map type) fields).mapIdx
        (fun j cell => reloadedCell (type' j) cell)
      = List.zipWith Field.cell ((List.range n).map type) fields := by
  apply List.ext_getElem?
  intro j
  rw [List.getElem?_mapIdx]
  by_cases hj : j < n
  · obtain ⟨hsame, hsettled⟩ := htype j hj
    rw [getElem?_zipWith_cell hj, hsame, Option.map_map]
    cases fields[j]? with
    | none => rfl
    | some f => exact congrArg some (reloadedCell_cell hsettled)
  · rw [getElem?_zipWith_cell_none hj]
    rfl

/-- A loaded table comes back exactly if each of its columns has its type again. -/
theorem reload_tableOf :
    reload (tableOf names rows) = tableOf names rows ↔
      ∀ j < names.length, reloadedType (tableOf names rows) j = columnType rows j := by
  constructor
  · intro h j hj
    have hcolumn := congrArg (fun t : Table => t.columns[j]?) h
    simp only [reload, List.getElem?_mapIdx, columns_tableOf hj, Option.map_some,
      Option.some_inj, Column.mk.injEq, true_and] at hcolumn
    exact hcolumn
  · intro h
    rw [reload, Table.mk.injEq]
    constructor
    · apply List.ext_getElem?
      intro j
      rw [List.getElem?_mapIdx]
      by_cases hj : j < names.length
      · rw [columns_tableOf hj, Option.map_some, h j hj]
      · rw [List.getElem?_eq_none (by rw [length_columns_tableOf]; omega)]
        rfl
    · refine (List.map_congr_left fun row hrow => ?_).trans (List.map_id _)
      obtain ⟨fields, hfields, rfl⟩ := List.mem_map.mp hrow
      have hrows : rows ≠ [] := List.ne_nil_of_mem hfields
      exact mapIdx_reloadedCell (fun j hj => ⟨h j hj, columnType_ne_unknown hrows j⟩) fields

end Columns

/-! ## Fixed points -/

section Loaded

variable {delimiter : Char} {s : String} {t : Table}

/-- A loaded table is read from its own text as `reload` says. -/
theorem read_write_of_read (hd : IsDelimiter delimiter) (h : read delimiter s = .ok t) :
    read delimiter (write delimiter t) = .ok (reload t) := by
  obtain ⟨names, rows, rfl, hnames, hnodup, hwidth⟩ := exists_tableOf_of_read h
  have hcolumns : (tableOf names rows).columns ≠ [] := by
    rw [← List.length_pos_iff, length_columns_tableOf, List.length_pos_iff]
    exact hnames
  have hrows : ∀ row ∈ (tableOf names rows).rows,
      row.length = (tableOf names rows).columns.length := by
    intro row hrow
    obtain ⟨fields, hfields, rfl⟩ := List.mem_map.mp hrow
    rw [length_columns_tableOf, List.length_zipWith, List.length_map, List.length_range,
      hwidth fields hfields, Nat.min_self]
  exact read_write hd hcolumns (by rwa [columnNames_tableOf]) hrows
    fun row hrow cell hcell => ne_nan_of_mem_tableOf hrow hcell

/-- What is loaded comes back exactly if each column of floating point numbers holds one whose text
is no whole number of 64 bits. -/
theorem reload_eq_iff_of_read (h : read delimiter s = .ok t) :
    reload t = t ↔
      ∀ j column, t.columns[j]? = some column → column.type = .float →
        ∃ x, .float x ∈ t.cellsAt j ∧ readInteger? (Cell.float x).display = none := by
  obtain ⟨names, rows, rfl, -, -, -⟩ := exists_tableOf_of_read h
  rw [reload_tableOf]
  constructor
  · intro hsame j column hcolumn
    have hj : j < names.length := by
      rw [← length_columns_tableOf names rows]
      exact (List.getElem?_eq_some_iff.mp hcolumn).1
    rw [columns_tableOf hj] at hcolumn
    cases hcolumn
    exact (reloadedType_tableOf hj).mp (hsame j hj)
  · intro hfloat j hj
    exact (reloadedType_tableOf hj).mpr (hfloat j _ (columns_tableOf hj))

theorem ne_nan_of_mem_cellsAt (h : read delimiter s = .ok t) {j : ℕ} {x : Binary64}
    (hx : .float x ∈ t.cellsAt j) : x ≠ .nan := by
  rintro rfl
  obtain ⟨names, rows, rfl, -, -, -⟩ := exists_tableOf_of_read h
  obtain ⟨row, hrow, hj⟩ := List.mem_filterMap.mp hx
  exact ne_nan_of_mem_tableOf hrow (List.mem_of_getElem? hj) rfl

/-- A column of floating point numbers comes back for one that is infinite, has a fraction, or lies
below `10¹⁶`. -/
theorem read_write_eq_of_point (hd : IsDelimiter delimiter) (h : read delimiter s = .ok t)
    (hpoint : ∀ j column, t.columns[j]? = some column → column.type = .float →
      ∃ x, .float x ∈ t.cellsAt j ∧
        ∀ negative m, x = .finite negative m → m.isIntegral = true →
          m.units < Magnitude.wholeLimit) :
    read delimiter (write delimiter t) = .ok t := by
  have hsame : reload t = t := by
    rw [reload_eq_iff_of_read h]
    intro j column hcolumn htype
    obtain ⟨x, hmem, hsmall⟩ := hpoint j column hcolumn htype
    refine ⟨x, hmem, ?_⟩
    cases hread : readInteger? (Cell.float x).display with
    | none => rfl
    | some i =>
      obtain ⟨negative, m, hx, hintegral, hlarge⟩ :=
        Cell.exists_of_readInteger?_display (ne_nan_of_mem_cellsAt h hmem) hread
      have hlt := hsmall negative m hx hintegral
      omega
  rw [read_write_of_read hd h, hsame]

/-- A loaded table is a fixed point of writing and reading exactly if each column of floating point
numbers holds one whose text is no whole number of 64 bits. -/
theorem read_write_eq_iff (hd : IsDelimiter delimiter) (h : read delimiter s = .ok t) :
    read delimiter (write delimiter t) = .ok t ↔
      ∀ j column, t.columns[j]? = some column → column.type = .float →
        ∃ x, .float x ∈ t.cellsAt j ∧ readInteger? (Cell.float x).display = none := by
  rw [read_write_of_read hd h, Except.ok.injEq, reload_eq_iff_of_read h]

/-- Next to a half, a large number comes back as it was. -/
theorem read_write_eq_of_half :
    ∃ t, read ',' "a\n1e16\n0.5\n" = .ok t ∧ read ',' (write ',' t) = .ok t := by
  let half : Binary64 := Decimal.nearest false ⟨5, -1⟩
  let t : Table := ⟨[⟨"a", .float⟩], [[.float (Decimal.nearest false ⟨1, 16⟩)], [.float half]]⟩
  have hread : read ',' "a\n1e16\n0.5\n" = .ok t :=
    Traversal.toOption_eq_some_iff.mp (by decide +kernel)
  refine ⟨t, hread, (read_write_eq_iff (by decide) hread).mpr fun j column hcolumn _ => ?_⟩
  match j, hcolumn with
  | 0, _ => exact ⟨half, by decide +kernel, by decide +kernel⟩

/-- Alone, it is written without a point, and comes back as a whole number. -/
theorem large_float_comes_back_integer :
    IsDelimiter ',' ∧ ∃ t t', read ',' "a\n1e16\n" = .ok t ∧ t.columns = [⟨"a", .float⟩] ∧
      write ',' t = "a\n10000000000000000\n" ∧
      read ',' (write ',' t) = .ok t' ∧ t'.columns = [⟨"a", .integer⟩] := by
  refine ⟨by decide, ⟨[⟨"a", .float⟩], [[.float (Decimal.nearest false ⟨1, 16⟩)]]⟩,
    ⟨[⟨"a", .integer⟩], [[.integer 10000000000000000]]⟩, ?_, rfl, by decide +kernel, ?_, rfl⟩
  · exact Traversal.toOption_eq_some_iff.mp (by decide +kernel)
  · exact Traversal.toOption_eq_some_iff.mp (by decide +kernel)

end Loaded

end Delimited
end TableShell
