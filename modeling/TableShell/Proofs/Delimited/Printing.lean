import TableShell.Proofs.Delimited.FixedPoint

/-!
# Types that print a cell

A cell that is written and read again is the cast of its text to the type that its column has then.
It looks as it did exactly if that type prints its text as it stands (`display_reloadedCell_iff`). A
loaded cell is printed by the type that its column had, and by the type of texts; for the cells of a
column of floating point numbers or truth values, that is every type their column can come back with
(`prints_cell`).
-/

namespace TableShell
namespace Delimited

open Text ColumnType

/-- Cast to the type, the text of the cell stands for something that looks like it. -/
def Prints (type : ColumnType) (cell : Cell) : Prop :=
  cell.isMissing = true ∨ meansMissing cell.display = true ∨
    (Cell.cast cell.display type).display = cell.display

theorem cast_ne_missing {s : String} (h : meansMissing s = false) (type : ColumnType) :
    Cell.cast s type ≠ .missing := by
  by_cases htype : type = .unknown
  · subst htype
    rw [Cell.cast.eq_def, h, if_neg Bool.false_ne_true]
    intro hmissing
    rcases Cell.infer_cases s with ⟨_, hinfer, -⟩ | ⟨_, hinfer, -⟩ | ⟨_, hinfer⟩ | hinfer |
      ⟨-, hnan⟩
    case inr.inr.inr.inr =>
      rw [meansMissing, hnan, Bool.or_true] at h
      cases h
    all_goals
      rw [hinfer] at hmissing
      cases hmissing
  · intro hmissing
    rcases Cell.cast_cases s htype with ⟨-, hmeans⟩ | ⟨-, hcast | ⟨hvalue, -⟩⟩
    · rw [h] at hmeans
      cases hmeans
    · rw [hmissing] at hcast
      cases hcast
    · rw [hmissing] at hvalue
      exact hvalue

/-- But for texts that mean no value, what is read again is the cast of what was written. -/
theorem reloadedCell_eq_cast {cell : Cell} (hmissing : cell.isMissing = false)
    (hmeans : meansMissing cell.display = false) (type : ColumnType) :
    reloadedCell type cell = Cell.cast cell.display type := by
  rw [reloadedCell, hmissing, if_neg Bool.false_ne_true]
  split
  · rename_i hcast
    exact absurd hcast (cast_ne_missing hmeans type)
  · rfl

theorem reloadedCell_of_meansMissing {cell : Cell} (hmissing : cell.isMissing = false)
    (hmeans : meansMissing cell.display = true) (type : ColumnType) :
    reloadedCell type cell = .text cell.display := by
  have hcast : Cell.cast cell.display type = .missing := by
    rw [Cell.cast.eq_def, hmeans, if_pos rfl]
  rw [reloadedCell, hmissing, if_neg Bool.false_ne_true, hcast]

/-- A cell that was written and read looks as it did exactly if the type prints it. -/
theorem display_reloadedCell_iff {type : ColumnType} {cell : Cell} :
    (reloadedCell type cell).display = cell.display ↔ Prints type cell := by
  unfold Prints
  cases hmissing : cell.isMissing with
  | true =>
    have hcell : cell = .missing := by
      revert hmissing
      cases cell <;> simp [Cell.isMissing]
    rw [hcell]
    exact iff_of_true rfl (Or.inl rfl)
  | false =>
    cases hmeans : meansMissing cell.display with
    | true =>
      rw [reloadedCell_of_meansMissing hmissing hmeans]
      exact iff_of_true rfl (Or.inr (Or.inl rfl))
    | false =>
      rw [reloadedCell_eq_cast hmissing hmeans]
      simp

theorem prints_text (cell : Cell) : Prints .text cell := by
  rw [← display_reloadedCell_iff]
  cases hmissing : cell.isMissing with
  | true =>
    rw [reloadedCell, hmissing, if_pos rfl]
    revert hmissing
    cases cell <;> simp [Cell.isMissing]
  | false =>
    rw [reloadedCell_text hmissing]
    rfl

/-! ## Loaded cells -/

section Fields

variable {f : Field} {type type' : ColumnType}

/-- The type that a loaded cell has prints it. -/
theorem prints_cell_self (h : type ≠ .unknown) : Prints type (f.cell type) := by
  rw [← display_reloadedCell_iff, reloadedCell_cell h]

/-- What stayed text among floating point numbers means that there is no value. -/
theorem meansMissing_of_cell_float {s : String} (hwithin : Within f.type .float)
    (h : f.cell .float = .text s) : meansMissing s = true := by
  have hknown : ColumnType.float ≠ .unknown := by decide
  rcases cell_cases (f := f) hknown with ⟨-, hcell⟩ | ⟨hmissing, hcell | ⟨-, hvalue, -⟩⟩
  · rw [h] at hcell
    cases hcell
  · obtain rfl : s = f.text := by
      rw [h] at hcell
      exact Cell.text.inj hcell
    -- a number among the texts would have been cast
    by_contra hmeans
    rw [Bool.not_eq_true] at hmeans
    have hnumber : readNumber? f.text = none := by
      cases hread : readNumber? f.text with
      | none => rfl
      | some x =>
        have hcast : Cell.cast f.text .float = .float x := by
          rw [Cell.cast.eq_def, hmeans, if_neg Bool.false_ne_true]
          simp only [hread, Option.map_some, Option.getD_some]
        rw [Field.cell, hmissing, if_neg Bool.false_ne_true, hcast] at h
        simp at h
    rcases within_float_iff.mp hwithin with hinteger | hfloat
    · rw [Field.type, hmissing, if_neg Bool.false_ne_true] at hinteger
      rcases Cell.infer_cases f.text with ⟨i, -, hread⟩ | ⟨x, -, hread, -⟩ | ⟨b, hinfer⟩ | hinfer |
        ⟨-, hnan⟩
      · obtain ⟨x, hx⟩ := Binary64.exists_of_integerRead? hread
        rw [readNumber?, hx] at hnumber
        cases hnumber
      · rw [hread] at hnumber
        cases hnumber
      · have hboolean : ¬ Within .boolean .integer := by decide
        rw [hinfer] at hinteger
        exact hboolean hinteger
      · have htext : ¬ Within .text .integer := by decide
        rw [hinfer] at hinteger
        exact htext hinteger
      · rw [meansMissing, hnan, Bool.or_true] at hmeans
        cases hmeans
    · obtain ⟨x, hx⟩ := cell_of_type_float hfloat
      rw [h] at hx
      cases hx
  · rw [h] at hvalue
    exact absurd hvalue id

/-- A floating point number is printed by every type that its text lies within. -/
theorem prints_float {x : Binary64} (hx : x ≠ .nan)
    (hwithin : Within (shownType (.float x)) type') : Prints type' (.float x) := by
  have hcell : (Cell.float x).IsValue := hx
  cases type' with
  | text => exact prints_text _
  | float =>
    have hcast : Cell.cast (Cell.float x).display .float = .float x := Cell.cast_display hcell
    exact Or.inr (Or.inr (by rw [hcast]))
  | integer =>
    -- a float that shows the digits of an integer is read as that integer, which shows them again
    rw [shownType_float hx] at hwithin
    cases hread : readInteger? (Cell.float x).display with
    | none =>
      rw [hread] at hwithin
      exact absurd hwithin (by decide)
    | some i =>
      have hcast : Cell.cast (Cell.float x).display .integer = .integer i := by
        rw [Cell.cast.eq_def, Cell.meansMissing_display hcell, if_neg Bool.false_ne_true]
        simp only [hread]
      refine Or.inr (Or.inr ?_)
      rw [hcast]
      exact Cell.display_of_readInteger?_display hx hread
  | boolean | unknown =>
    -- no number lies within these types
    rw [shownType_float hx] at hwithin
    split at hwithin <;> exact absurd hwithin (by decide)

theorem eq_of_boolean_within (h : Within .boolean type') : type' = .boolean ∨ type' = .text := by
  revert h
  cases type' <;> decide

/-- A loaded cell is printed by the type that its column had, and by that of texts; in a column of
floating point numbers or truth values, by every type that its text lies within. -/
theorem prints_cell (h : type ≠ .unknown) (hwithin : Within f.type type)
    (hshown : Within (shownType (f.cell type)) type')
    (htype : type' = .text ∨ type' = type ∨ type = .float ∨ type = .boolean) :
    Prints type' (f.cell type) := by
  rcases htype with rfl | rfl | rfl | rfl
  · exact prints_text _
  · exact prints_cell_self h
  · rcases cell_cases (f := f) h with ⟨-, hcell⟩ | ⟨-, hcell | ⟨-, hvalue, htype⟩⟩
    · rw [hcell]
      exact Or.inl rfl
    · rw [hcell]
      exact Or.inr (Or.inl (meansMissing_of_cell_float hwithin hcell))
    · cases hcell : f.cell .float with
      | float x =>
        rw [hcell] at hvalue hshown
        exact prints_float hvalue hshown
      | integer | boolean | text | missing =>
        rw [hcell] at htype
        cases htype
  · rw [shownType_cell h (by decide) hwithin] at hshown
    by_cases hunknown : f.type = .unknown
    · rcases cell_cases (f := f) h with ⟨-, hcell⟩ | ⟨hmissing, hcell | ⟨hmeans, -⟩⟩
      · rw [hcell]
        exact Or.inl rfl
      · rw [hcell]
        exact Or.inr (Or.inl (meansMissing_of_type_unknown hmissing hunknown))
      · rw [meansMissing_of_type_unknown hmissing hunknown] at hmeans
        cases hmeans
    · rw [eq_of_within hwithin hunknown (by decide) (by decide)] at hshown
      rcases eq_of_boolean_within hshown with rfl | rfl
      · exact prints_cell_self h
      · exact prints_text _

end Fields

/-! ## The cells of a table -/

/-- A cell is that of the field at its place, whose type lies within that of the column. -/
theorem exists_field_of_cellAt?_tableOf {names : List String} {rows : List (List Field)} {i j : ℕ}
    {cell : Cell} (hcell : cellAt? (tableOf names rows) i j = some cell) :
    ∃ column fields f, (tableOf names rows).columns[j]? = some column ∧ rows[i]? = some fields ∧
      fields[j]? = some f ∧ column.type ≠ .unknown ∧ Within f.type column.type ∧
      cell = f.cell column.type := by
  obtain ⟨row, hrow, hcell⟩ := Option.bind_eq_some_iff.mp hcell
  rw [tableOf, List.getElem?_map] at hrow
  obtain ⟨fields, hfields, rfl⟩ := Option.map_eq_some_iff.mp hrow
  have hmem := List.mem_of_getElem? hfields
  have hrows : rows ≠ [] := List.ne_nil_of_mem hmem
  have hj : j < names.length := by
    by_contra hj
    rw [getElem?_zipWith_cell_none hj] at hcell
    cases hcell
  rw [getElem?_zipWith_cell hj] at hcell
  obtain ⟨f, hf, rfl⟩ := Option.map_eq_some_iff.mp hcell
  refine ⟨_, fields, f, columns_tableOf hj, hfields, hf, columnType_ne_unknown hrows j, ?_, rfl⟩
  have hat : f ∈ fieldsAt rows j := List.mem_filterMap.mpr ⟨fields, hmem, hf⟩
  show Within f.type (columnType rows j)
  rw [columnType_eq hrows]
  exact (within_mergeAll (List.mem_map_of_mem hat)).settled

/-- A cell of a loaded table is that of a field, whose type lies within that of the column. -/
theorem exists_field_of_cellAt? {delimiter : Char} {s : String} {t : Table}
    (h : read delimiter s = .ok t) {i j : ℕ} {cell : Cell} (hcell : cellAt? t i j = some cell) :
    ∃ (column : Column) (f : Field), t.columns[j]? = some column ∧ column.type ≠ .unknown ∧
      Within f.type column.type ∧ cell = f.cell column.type := by
  obtain ⟨names, rows, rfl, -, -, -⟩ := exists_tableOf_of_read h
  obtain ⟨column, -, f, hcolumn, -, -, hfield⟩ := exists_field_of_cellAt?_tableOf hcell
  exact ⟨column, f, hcolumn, hfield⟩

/-- What a cell shows lies within the type that its column comes back with. -/
theorem within_reloadedType {t : Table} {i j : ℕ} {cell : Cell}
    (hcell : cellAt? t i j = some cell) : Within (shownType cell) (reloadedType t j) := by
  obtain ⟨row, hrow, hcell⟩ := Option.bind_eq_some_iff.mp hcell
  have hrows : t.rows.isEmpty = false :=
    List.isEmpty_eq_false_iff.mpr (List.ne_nil_of_mem (List.mem_of_getElem? hrow))
  have hmem : cell ∈ t.cellsAt j :=
    List.mem_filterMap.mpr ⟨row, List.mem_of_getElem? hrow, hcell⟩
  rw [reloadedType_eq, hrows, if_neg Bool.false_ne_true]
  exact (within_mergeAll (List.mem_map_of_mem hmem)).settled

end Delimited
end TableShell
