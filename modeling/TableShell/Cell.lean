import TableShell.Number.Layout

/-!
# Cells and column types

A cell holds a whole number, a floating point number, a truth value, a text, or nothing. A column
has the type of its cells, where `unknown` is the type of no cell yet. `ColumnType.merge` is the
type that two observations have in common; it is a commutative monoid with `unknown` as identity.
-/

namespace TableShell

/-- What a column holds. -/
inductive ColumnType
  | integer
  | float
  | boolean
  | text
  | unknown
deriving DecidableEq, Inhabited

/-- One value of a table. -/
inductive Cell
  | integer (value : Int64)
  | float (value : Binary64)
  | boolean (value : Bool)
  | text (value : String)
  | missing
deriving DecidableEq, Inhabited

namespace ColumnType

/-- The types in the order in which they are listed. -/
def all : List ColumnType :=
  [integer, float, boolean, text, unknown]

/-- The name of the type. -/
def name : ColumnType → String
  | integer => "integer"
  | float => "float"
  | boolean => "boolean"
  | text => "text"
  | unknown => "unknown"

/-- The type of that name. -/
def ofName? (name : String) : Option ColumnType :=
  all.find? fun t => t.name = name

/-- The cells of the type are numbers. -/
def isNumeric : ColumnType → Bool
  | integer | float => true
  | _ => false

/-- The cell of a new row in a column that the row does not mention. -/
def defaultCell : ColumnType → Cell
  | integer => .integer 0
  | float => .float (.zero false)
  | boolean => .boolean false
  | text => .text ""
  | unknown => .missing

/-- The type of a column in which both types were observed. -/
def merge : ColumnType → ColumnType → ColumnType
  | unknown, t => t
  | t, unknown => t
  | integer, float => float
  | float, integer => float
  | s, t => if s = t then s else text

theorem merge_comm (s t : ColumnType) : merge s t = merge t s := by
  cases s <;> cases t <;> rfl

theorem merge_assoc (s t u : ColumnType) : merge (merge s t) u = merge s (merge t u) := by
  cases s <;> cases t <;> cases u <;> rfl

@[simp] theorem unknown_merge (t : ColumnType) : merge unknown t = t := by
  cases t <;> rfl

@[simp] theorem merge_unknown (t : ColumnType) : merge t unknown = t := by
  cases t <;> rfl

@[simp] theorem merge_self (t : ColumnType) : merge t t = t := by
  cases t <;> rfl

/-- The type in common to all observations. -/
def mergeAll (types : List ColumnType) : ColumnType :=
  types.foldl merge unknown

/-- The type of a column with rows: where nothing was observed, text. -/
def settled (t : ColumnType) : ColumnType :=
  if t = unknown then text else t

end ColumnType

namespace Cell

/-- The type that the cell shows; a missing cell shows none. -/
def type : Cell → ColumnType
  | integer _ => .integer
  | float _ => .float
  | boolean _ => .boolean
  | text _ => .text
  | missing => .unknown

/-- The cell holds nothing. -/
def isMissing : Cell → Bool
  | missing => true
  | _ => false

/-- The number of a numeric cell; a whole number is rounded to the floating point format. -/
def number? : Cell → Option Binary64
  | float x => some x
  | integer i => some (.ofInt i.toInt)
  | _ => none

/-- The truth value of a boolean cell. -/
def bool? : Cell → Option Bool
  | boolean b => some b
  | _ => none

/-- The mark of a missing cell. -/
def missingMark : String := "<NA>"

/-- How the cell is shown. -/
def display : Cell → String
  | integer i => .ofList (Integer.digits i.toInt)
  | float x => .ofList x.cellText
  | boolean true => "true"
  | boolean false => "false"
  | text s => s
  | missing => missingMark

/-- The text in which conditions and searches look; a missing cell has none. -/
def searchText : Cell → String
  | missing => ""
  | cell => cell.display

/-- The type that the cells have in common, where a column of missing cells is one of text. -/
def commonType (cells : List Cell) : ColumnType :=
  (ColumnType.mergeAll (cells.map type)).settled

end Cell
end TableShell
