import TableShell.Cell

/-!
# Tables

The single data set of the shell: named, typed columns in order, and rows of cells under them. The
operations here are pure steps from one table to the next. `WellFormed` says what all tables that
the shell itself makes have in common; the operations are defined for every table.
-/

namespace TableShell

/-- A column of a table. -/
structure Column where
  name : String
  type : ColumnType
deriving DecidableEq, Inhabited

/-- The cells of one row, from the first column on. -/
abbrev Row := List Cell

/-- Columns and the rows under them. -/
structure Table where
  columns : List Column
  rows : List Row
deriving DecidableEq, Inhabited

namespace Table

/-- The table without columns and rows. -/
def empty : Table :=
  ⟨[], []⟩

/-- The table has neither columns nor rows. -/
def isEmpty (t : Table) : Bool :=
  t.rows.isEmpty && t.columns.isEmpty

/-- The names of the columns in order. -/
def columnNames (t : Table) : List String :=
  t.columns.map Column.name

/-- The position in `names` of the last occurrence of `name`. -/
def lastIndex? (names : List String) (name : String) : Option Nat :=
  match names with
  | [] => none
  | n :: rest =>
    match lastIndex? rest name with
    | some i => some (i + 1)
    | none => if n = name then some 0 else none

/-- The position of the column of that name; the last one where a name is repeated. -/
def columnIndex? (t : Table) (name : String) : Option Nat :=
  lastIndex? t.columnNames name

/-- The column of that name. -/
def column? (t : Table) (name : String) : Option Column :=
  (t.columnIndex? name).bind fun i => t.columns[i]?

/-- The cells of a column; rows that are too short to reach it have none. -/
def cellsAt (t : Table) (index : Nat) : List Cell :=
  t.rows.filterMap fun row => row[index]?

/-- The table with one more row at the end. -/
def addRow (t : Table) (row : Row) : Table :=
  { t with rows := t.rows ++ [row] }

/-- The table with one column given another type. -/
def setType (t : Table) (index : Nat) (type : ColumnType) : Table :=
  { t with columns := t.columns.modify index fun column => { column with type } }

/-- The table with a new column at the end, missing in every row, unless a column of that name is
there. -/
def addColumn (t : Table) (name : String) (type : ColumnType) : Table :=
  match t.columnIndex? name with
  | some _ => t
  | none =>
    { columns := t.columns ++ [⟨name, type⟩]
      rows := t.rows.map (· ++ [.missing]) }

/-- Where `addColumn` finds or puts the column. -/
def indexForColumn (t : Table) (name : String) : Nat :=
  (t.columnIndex? name).getD t.columns.length

/-- The column with an unknown type replaced by the common type of its cells. -/
def settleColumn (t : Table) (index : Nat) (column : Column) : Column :=
  if column.type = .unknown then
    { column with type := Cell.commonType (t.cellsAt index) }
  else
    column

/-- The table with every unknown type settled, as soon as there are rows. -/
def settleTypes (t : Table) : Table :=
  if t.rows.isEmpty then t else { t with columns := t.columns.mapIdx t.settleColumn }

/-- The rows that the mask selects, in order. Rows beyond the mask are not selected. -/
def filter (t : Table) (mask : List Bool) : Table :=
  { t with rows := ((t.rows.zip mask).filter Prod.snd).map Prod.fst }

/-- The rows that the mask leaves. -/
def unselected : (rows : List Row) → (mask : List Bool) → List Row
  | row :: rows, selected :: mask =>
    if selected then unselected rows mask else row :: unselected rows mask
  | rows, _ => rows

/-- The table without the rows that the mask selects. Rows beyond the mask stay. -/
def remove (t : Table) (mask : List Bool) : Table :=
  { t with rows := unselected t.rows mask }

/-! ## Well-formed tables -/

/-- The cell may stand in a column of the type: missing, text that did not fit, or a proper value;
what is not a number is no proper value. -/
def CellFits (type : ColumnType) (cell : Cell) : Prop :=
  (cell = .missing ∨ cell.type = .text ∨ cell.type = type) ∧ cell ≠ .float .nan

/-- The cells of the row stand one under each column and fit there. -/
def RowFits (columns : List Column) (row : Row) : Prop :=
  row.length = columns.length ∧
    ∀ pair ∈ columns.zip row, CellFits pair.1.type pair.2

/-- Names are distinct, rows fit, and a table with rows has no column of unknown type. -/
structure WellFormed (t : Table) : Prop where
  nodup_names : t.columnNames.Nodup
  rows_fit : ∀ row ∈ t.rows, RowFits t.columns row
  types_known : t.rows ≠ [] → ∀ column ∈ t.columns, column.type ≠ .unknown

theorem wellFormed_empty : WellFormed empty where
  nodup_names := List.nodup_nil
  rows_fit := by simp [empty]
  types_known := by simp [empty]

end Table
end TableShell
