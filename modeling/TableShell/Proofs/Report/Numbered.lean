import Mathlib.Data.List.Induction
import TableShell.Proofs.Table.WellFormed
import TableShell.Report.Grid

/-!
# Grids drawn by the numbers of rows

A grid is drawn from the numbers of the rows that it shows: each row is looked up by its number, and
each cell by its place in the row. Such a drawing is none where an item does not exist. For a well
formed table there always is one, and it is that of `Grid.preview` (`preview?_eq`).
-/

namespace TableShell
namespace Grid

variable {α β : Type}

/-! ## Drawing -/

/-- The width of a column over the rows of the numbers, where all of them have a cell there. -/
def columnWidth? (t : Table) (numbers : List ℕ) (index : ℕ) (column : Column) : Option ℕ := do
  let cells ← numbers.mapM fun number => do
    let row ← t.rows[number]?
    row[index]?
  return (cells.map fun cell => width cell.display).foldl max (width column.name)

/-- The widths of all columns over the rows of the numbers. -/
def columnWidths? (t : Table) (numbers : List ℕ) : Option (List ℕ) :=
  t.columns.zipIdx.mapM fun entry => columnWidth? t numbers entry.2 entry.1

/-- The rows of the numbers. -/
def rows? (t : Table) (numbers : List ℕ) : Option (List Row) :=
  numbers.mapM fun number => t.rows[number]?

/-- The whole table. -/
def full? (t : Table) : Option (Except PadError String) :=
  if t.rows.isEmpty then
    return .ok "(0 rows)"
  else do
    let numbers := List.range t.rows.length
    let widths ← columnWidths? t numbers
    let rows ← rows? t numbers
    return fullText t.columns widths rows

/-- The table as it is shown under a message. -/
def preview? (t : Table) : Option (Except PadError String) :=
  if t.rows.length ≤ previewLimit then
    full? t
  else do
    let first := List.range previewEdge
    let last := List.range' (t.rows.length - previewEdge) previewEdge
    let widths ← columnWidths? t (first ++ last)
    let firstRows ← rows? t first
    let lastRows ← rows? t last
    return previewText t.columns widths t.rows.length firstRows lastRows

/-! ## Looking items up -/

/-- Where every lookup succeeds, all of them do. -/
theorem mapM_eq_some {f : α → Option β} {xs : List α} {ys : List β}
    (h : xs.map f = ys.map some) : xs.mapM f = some ys := by
  induction xs generalizing ys with
  | nil =>
    have hnil : ys = [] := List.map_eq_nil_iff.mp h.symm
    rw [hnil]
    rfl
  | cons x xs ih =>
    cases ys with
    | nil => cases h
    | cons y ys =>
      rw [List.map_cons, List.map_cons, List.cons.injEq] at h
      rw [List.mapM_cons, h.1, ih h.2]
      rfl

/-- The rows stand under the numbers. -/
def Numbers (t : Table) (numbers : List ℕ) (rows : List Row) : Prop :=
  numbers.map (fun number => t.rows[number]?) = rows.map some

theorem numbers_all (t : Table) : Numbers t (List.range t.rows.length) t.rows := by
  apply List.ext_getElem?
  intro i
  rw [List.getElem?_map, List.getElem?_map]
  by_cases hi : i < t.rows.length
  · rw [List.getElem?_range hi, List.getElem?_eq_getElem hi, Option.map_some, Option.map_some,
      List.getElem?_eq_getElem hi]
  · have hle : t.rows.length ≤ i := Nat.le_of_not_lt hi
    rw [List.getElem?_eq_none hle, List.getElem?_eq_none (by rwa [List.length_range])]
    rfl

/-- The first rows, where there are so many. -/
theorem numbers_head {t : Table} (h : previewEdge ≤ t.rows.length) :
    Numbers t (List.range previewEdge) (headRows t.rows) := by
  apply List.ext_getElem?
  intro i
  unfold headRows
  rw [List.getElem?_map, List.getElem?_map, List.getElem?_take]
  by_cases hi : i < previewEdge
  · have hlt : i < t.rows.length := Nat.lt_of_lt_of_le hi h
    rw [List.getElem?_range hi, if_pos hi, List.getElem?_eq_getElem hlt, Option.map_some,
      Option.map_some, List.getElem?_eq_getElem hlt]
  · rw [if_neg hi, List.getElem?_eq_none (by rw [List.length_range]; omega)]
    rfl

/-- The last rows, where there are so many. -/
theorem numbers_tail {t : Table} (h : previewEdge ≤ t.rows.length) :
    Numbers t (List.range' (t.rows.length - previewEdge) previewEdge) (tailRows t.rows) := by
  apply List.ext_getElem?
  intro i
  unfold tailRows
  rw [List.getElem?_map, List.getElem?_map, List.getElem?_drop]
  by_cases hi : i < previewEdge
  · have hlt : t.rows.length - previewEdge + i < t.rows.length := by omega
    rw [List.getElem?_range' hi, Nat.one_mul, Option.map_some, List.getElem?_eq_getElem hlt,
      Option.map_some]
  · rw [List.getElem?_eq_none (by rw [List.length_range']; omega),
      List.getElem?_eq_none (by omega)]
    rfl

theorem Numbers.append {t : Table} {numbers numbers' : List ℕ} {rows rows' : List Row}
    (h : Numbers t numbers rows) (h' : Numbers t numbers' rows') :
    Numbers t (numbers ++ numbers') (rows ++ rows') := by
  unfold Numbers at *
  rw [List.map_append, List.map_append, h, h']

theorem Numbers.rows?_eq {t : Table} {numbers : List ℕ} {rows : List Row}
    (h : Numbers t numbers rows) : rows? t numbers = some rows :=
  mapM_eq_some h

/-! ## Drawing a well formed table -/

section WellFormed

variable {t : Table} {numbers : List ℕ} {rows : List Row}

/-- A row of the table has a cell under each column. -/
theorem map_getElem?_rows {index : ℕ} (h : ∀ row ∈ rows, index < row.length) :
    rows.map (fun row => row[index]?) = (rows.filterMap fun row => row[index]?).map some := by
  induction rows with
  | nil => rfl
  | cons row rows ih =>
    rw [List.forall_mem_cons] at h
    have hcell := List.getElem?_eq_getElem h.1
    simp only [List.map_cons, List.filterMap_cons, hcell, ih h.2]

theorem Numbers.columnWidth?_eq (h : Numbers t numbers rows) {index : ℕ}
    (hindex : ∀ row ∈ rows, index < row.length) (column : Column) :
    columnWidth? t numbers index column = some (columnWidth rows index column) := by
  have hcells : (numbers.mapM fun number => do
      let row ← t.rows[number]?
      row[index]?) = some (rows.filterMap fun row => row[index]?) := by
    apply mapM_eq_some
    have hbind := congrArg (List.map fun row? : Option Row => row?.bind fun row => row[index]?) h
    rw [List.map_map, List.map_map] at hbind
    rw [← map_getElem?_rows hindex]
    exact hbind
  unfold columnWidth? columnWidth
  rw [hcells]
  rfl

theorem Numbers.columnWidths?_eq (h : Numbers t numbers rows)
    (hwidth : ∀ row ∈ rows, row.length = t.columns.length) :
    columnWidths? t numbers = some (columnWidths t.columns rows) := by
  unfold columnWidths? columnWidths
  apply mapM_eq_some
  rw [List.mapIdx_eq_zipIdx_map, List.map_map]
  apply List.map_congr_left
  intro entry hentry
  have hlt : entry.2 < t.columns.length := List.snd_lt_of_mem_zipIdx hentry
  apply h.columnWidth?_eq
  intro row hrow
  rwa [hwidth row hrow]

theorem length_of_mem_rows (h : t.WellFormed) : ∀ row ∈ t.rows, row.length = t.columns.length :=
  fun row hrow => (h.rows_fit row hrow).1

/-- The rows at both ends are rows of the table. -/
theorem length_of_mem_edges (h : t.WellFormed) :
    ∀ row ∈ headRows t.rows ++ tailRows t.rows, row.length = t.columns.length := by
  intro row hrow
  apply length_of_mem_rows h
  rcases List.mem_append.mp hrow with hmem | hmem
  · exact List.mem_of_mem_take hmem
  · exact List.mem_of_mem_drop hmem

/-- Drawn by numbers, a well formed table gives all its rows. -/
theorem full?_eq (h : t.WellFormed) : full? t = some (full t) := by
  unfold full? full
  split
  · rfl
  · have hall := numbers_all t
    simp only [hall.columnWidths?_eq (length_of_mem_rows h), hall.rows?_eq, Option.bind_eq_bind,
      Option.bind_some]
    rfl

/-- Drawn by numbers, a well formed table gives the preview. -/
theorem preview?_eq (h : t.WellFormed) : preview? t = some (preview t) := by
  unfold preview? preview
  split
  · exact full?_eq h
  · rename_i hlong
    have hedge : previewEdge ≤ t.rows.length := by
      unfold previewEdge
      unfold previewLimit at hlong
      omega
    have hhead := numbers_head hedge
    have htail := numbers_tail hedge
    have hwidths := (hhead.append htail).columnWidths?_eq (length_of_mem_edges h)
    simp only [hwidths, hhead.rows?_eq, htail.rows?_eq, Option.bind_eq_bind, Option.bind_some]
    rfl

end WellFormed

end Grid
end TableShell
