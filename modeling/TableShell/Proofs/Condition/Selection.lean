import TableShell.Condition
import TableShell.Proofs.Except.Traversal
import TableShell.Proofs.Table.Columns

/-!
# Selecting rows by several conditions

The conditions of a map are a conjunction: a row is selected by all of them together exactly if
each of them selects it (`selectAll_spec`). Told by the rows themselves, the mask of the conditions
is that of the rows that pass them all (`selectAll_of_mem`), and it is there exactly if each
condition is on a column of the table; otherwise the first that is not is the error
(`selectAll_of_find?`).
-/

namespace TableShell
namespace Table

/-- The condition on the column selects the row of that index. -/
def Selects (t : Table) (column condition : String) (i : ℕ) : Prop :=
  ∃ mask, t.selection? column condition = some mask ∧ mask[i]? = some true

/-- A selection has one entry for each row. -/
theorem length_of_selection? {t : Table} {column condition : String} {mask : List Bool}
    (h : t.selection? column condition = some mask) : mask.length = t.rows.length := by
  rw [selection?] at h
  split at h
  · cases h
  · cases h
    exact List.length_map _

theorem selects_iff_of_selection? {t : Table} {column condition : String} {mask : List Bool}
    (h : t.selection? column condition = some mask) (i : ℕ) :
    t.Selects column condition i ↔ mask[i]? = some true := by
  constructor
  · rintro ⟨mask', h', hi⟩
    rw [h] at h'
    cases h'
    exact hi
  · intro hi
    exact ⟨mask, h, hi⟩

/-- A condition on a column that is there tests the cell under it in each row. -/
theorem selection?_eq {t : Table} {column : String} {index : ℕ} {type : ColumnType}
    (hindex : t.columnIndex? column = some index)
    (htype : t.columns[index]?.map Column.type = some type) (condition : String) :
    t.selection? column condition
      = some (t.rows.map (rowSatisfies index (.ofCondition condition type))) := by
  rw [selection?, hindex]
  simp only [htype, Option.getD_some]

/-- The condition selects a row exactly if its predicate holds of the cell under the column. -/
theorem selects_iff_holds {t : Table} {column condition : String} {index i : ℕ} {type : ColumnType}
    {row : Row} {cell : Cell} (hindex : t.columnIndex? column = some index)
    (htype : t.columns[index]?.map Column.type = some type) (hrow : t.rows[i]? = some row)
    (hcell : row[index]? = some cell) :
    t.Selects column condition i ↔ (Predicate.ofCondition condition type).holds cell = true := by
  rw [selects_iff_of_selection? (selection?_eq hindex htype condition), List.getElem?_map, hrow,
    Option.map_some, Option.some_inj, rowSatisfies, hcell]

/-- An entry of a conjunction of masks is set exactly if it is set in both. -/
theorem zipWith_and_eq_some_true {xs ys : List Bool} {i : ℕ} :
    (List.zipWith and xs ys)[i]? = some true ↔ xs[i]? = some true ∧ ys[i]? = some true := by
  rw [List.getElem?_zipWith_eq_some]
  constructor
  · rintro ⟨x, y, hx, hy, hxy⟩
    rw [Bool.and_eq_true] at hxy
    rw [hx, hy, hxy.1, hxy.2]
    exact ⟨rfl, rfl⟩
  · rintro ⟨hx, hy⟩
    exact ⟨true, true, hx, hy, rfl⟩

/-- The mask without the rows that the condition does not select, if it is on a column. -/
def narrow (t : Table) (mask : List Bool) (entry : String × String) : Except String (List Bool) :=
  match t.selection? entry.1 entry.2 with
  | some selected => .ok (List.zipWith and mask selected)
  | none => .error entry.1

theorem selectAll_eq_foldlM (t : Table) (conditions : Conditions) :
    t.selectAll conditions = conditions.entries.foldlM t.narrow (t.rows.map fun _ => true) := rfl

/-- Each condition takes the rows that it does not select out of the mask. -/
theorem foldlM_narrow {t : Table} {entries : List (String × String)} :
    ∀ {mask mask' : List Bool}, mask.length = t.rows.length →
      entries.foldlM t.narrow mask = .ok mask' →
      mask'.length = t.rows.length ∧
        ∀ i, mask'[i]? = some true ↔
          mask[i]? = some true ∧ ∀ entry ∈ entries, t.Selects entry.1 entry.2 i := by
  induction entries with
  | nil =>
    intro mask mask' hlength h
    cases h
    exact ⟨hlength, fun i => by simp⟩
  | cons entry entries ih =>
    intro mask mask' hlength h
    rw [List.foldlM_cons] at h
    obtain ⟨narrowed, hnarrowed, h⟩ := Traversal.bind_eq_ok_iff.mp h
    rw [narrow] at hnarrowed
    split at hnarrowed
    · rename_i selected hselected
      cases hnarrowed
      have hwidth : (List.zipWith and mask selected).length = t.rows.length := by
        rw [List.length_zipWith, hlength, length_of_selection? hselected, Nat.min_self]
      obtain ⟨hlength', hmask'⟩ := ih hwidth h
      refine ⟨hlength', fun i => ?_⟩
      rw [hmask', zipWith_and_eq_some_true, List.forall_mem_cons,
        selects_iff_of_selection? hselected, and_assoc]
    · cases hnarrowed

/-- The conditions select rows as soon as there is each of their columns. -/
theorem exists_foldlM_narrow {t : Table} {entries : List (String × String)}
    (h : ∀ entry ∈ entries, ∃ mask, t.selection? entry.1 entry.2 = some mask) (mask : List Bool) :
    ∃ mask', entries.foldlM t.narrow mask = .ok mask' := by
  induction entries generalizing mask with
  | nil => exact ⟨mask, rfl⟩
  | cons entry entries ih =>
    rw [List.forall_mem_cons] at h
    obtain ⟨selected, hselected⟩ := h.1
    obtain ⟨mask', hmask'⟩ := ih h.2 (List.zipWith and mask selected)
    refine ⟨mask', ?_⟩
    rw [List.foldlM_cons, narrow, hselected]
    exact hmask'

/-- The rows selected by all conditions are those that every condition selects. -/
theorem selectAll_spec {t : Table} {conditions : Conditions} {mask : List Bool}
    (h : t.selectAll conditions = .ok mask) :
    mask.length = t.rows.length ∧
      ∀ i, mask[i]? = some true ↔
        i < t.rows.length ∧ ∀ entry ∈ conditions.entries, t.Selects entry.1 entry.2 i := by
  have hall : ∀ i, (t.rows.map fun _ => true)[i]? = some true ↔ i < t.rows.length := by
    intro i
    rw [List.getElem?_map, Option.map_eq_some_iff]
    constructor
    · rintro ⟨row, hrow, -⟩
      exact (List.getElem?_eq_some_iff.mp hrow).1
    · intro hi
      exact ⟨t.rows[i], List.getElem?_eq_getElem hi, rfl⟩
  obtain ⟨hlength, hmask⟩ := foldlM_narrow (List.length_map _) h
  refine ⟨hlength, fun i => ?_⟩
  rw [hmask, hall]

/-! ## Rows that pass -/

/-- The row satisfies the condition on the column. -/
def passes (t : Table) (entry : String × String) (row : Row) : Bool :=
  match t.columnIndex? entry.1 with
  | some index =>
    let type := (t.columns[index]?.map Column.type).getD .unknown
    rowSatisfies index (.ofCondition entry.2 type) row
  | none => false

/-- The row satisfies all the conditions. -/
def passesAll (t : Table) (conditions : Conditions) (row : Row) : Bool :=
  conditions.entries.all fun entry => t.passes entry row

/-- A condition on a column selects the rows that pass it. -/
theorem selection?_of_mem {t : Table} {entry : String × String} (h : entry.1 ∈ t.columnNames) :
    t.selection? entry.1 entry.2 = some (t.rows.map (t.passes entry)) := by
  cases hindex : t.columnIndex? entry.1 with
  | none => exact absurd h (columnIndex?_eq_none_iff.mp hindex)
  | some index =>
    have hpasses : t.passes entry = rowSatisfies index (.ofCondition entry.2
        ((t.columns[index]?.map Column.type).getD .unknown)) := by
      funext row
      rw [passes, hindex]
    rw [selection?, hindex, hpasses]

theorem selection?_of_not_mem {t : Table} {column : String} (h : column ∉ t.columnNames)
    (condition : String) : t.selection? column condition = none := by
  rw [selection?, columnIndex?_eq_none_iff.mpr h]

/-- A mask of rows that pass a test is narrowed to those that pass the condition too. -/
theorem narrow_map {t : Table} {entry : String × String} (h : entry.1 ∈ t.columnNames)
    (p : Row → Bool) :
    t.narrow (t.rows.map p) entry = .ok (t.rows.map fun row => p row && t.passes entry row) := by
  rw [narrow, selection?_of_mem h]
  simp only [List.zipWith_map_left, List.zipWith_map_right, List.zipWith_self]

/-- A mask is narrowed, condition after condition, to the rows that pass them all. -/
theorem foldlM_narrow_map {t : Table} {entries : List (String × String)}
    (h : ∀ entry ∈ entries, entry.1 ∈ t.columnNames) (p : Row → Bool) :
    entries.foldlM t.narrow (t.rows.map p)
      = .ok (t.rows.map fun row => p row && entries.all fun entry => t.passes entry row) := by
  induction entries generalizing p with
  | nil => simp [pure, Except.pure]
  | cons entry entries ih =>
    rw [List.forall_mem_cons] at h
    rw [List.foldlM_cons, narrow_map h.1]
    refine (ih h.2 _).trans ?_
    simp only [List.all_cons, Bool.and_assoc]

/-- Conditions on columns of the table select the rows that pass them all. -/
theorem selectAll_of_mem {t : Table} {conditions : Conditions}
    (h : ∀ name ∈ conditions.keys, name ∈ t.columnNames) :
    t.selectAll conditions = .ok (t.rows.map (t.passesAll conditions)) := by
  rw [selectAll_eq_foldlM, foldlM_narrow_map fun entry hentry => h _ (List.mem_map_of_mem hentry)]
  rfl

/-- The first column that is not there ends the selection, whatever the mask until then. -/
theorem foldlM_narrow_of_find? {t : Table} {entries : List (String × String)} {name : String}
    (h : (entries.map Prod.fst).find? (fun key => key ∉ t.columnNames) = some name)
    (mask : List Bool) : entries.foldlM t.narrow mask = .error name := by
  induction entries generalizing mask with
  | nil => cases h
  | cons entry entries ih =>
    rw [List.map_cons] at h
    rw [List.foldlM_cons]
    by_cases hmem : entry.1 ∈ t.columnNames
    · rw [List.find?_cons_of_neg (by simpa using hmem)] at h
      rw [narrow, selection?_of_mem hmem]
      exact ih h _
    · rw [List.find?_cons_of_pos (by simpa using hmem)] at h
      cases h
      rw [narrow, selection?_of_not_mem hmem]
      rfl

/-- The first column of the conditions that is not there is the error. -/
theorem selectAll_of_find? {t : Table} {conditions : Conditions} {name : String}
    (h : conditions.keys.find? (fun key => key ∉ t.columnNames) = some name) :
    t.selectAll conditions = .error name :=
  foldlM_narrow_of_find? h _

end Table
end TableShell
