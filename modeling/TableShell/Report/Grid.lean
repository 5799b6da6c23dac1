import TableShell.Report

/-!
# Tables as text

A table is written as a grid: every column as wide as its longest cell or name, counted in
characters, with a rule under the names. A long table shows its first and last rows around one line
that tells how many there are. Widths are counted in 16 bits where a text is filled up, so there is
no grid with a wider column: the program stops there.
-/

namespace TableShell
namespace Grid

/-- A table with more rows than this is shown in part. -/
def previewLimit : Nat := 10

/-- How many rows are shown at each end of a long table. -/
def previewEdge : Nat := 5

/-- The number of characters of a text. -/
def width (s : String) : Nat :=
  s.toList.length

/-! ## Filling up -/

/-- The greatest width that a text can be filled up to. -/
def widthLimit : Nat := 65535

/-- Why a text is not filled up. -/
inductive PadError
  | outOfRange
deriving DecidableEq

/-- The wording of an error. -/
def PadError.message : PadError → String
  | outOfRange => "Formatting argument out of range"

/-- The text with spaces behind it, as many as it is shorter than the width. -/
def fill (width : Nat) (s : String) : String :=
  .ofList (s.toList ++ List.replicate (width - s.toList.length) ' ')

/-- The text, filled up to a width within the limit. -/
def pad (width : Nat) (s : String) : Except PadError String :=
  if width ≤ widthLimit then .ok (fill width s) else .error .outOfRange

/-! ## Columns -/

/-- The width of a column over the rows that are shown. -/
def columnWidth (rows : List Row) (index : Nat) (column : Column) : Nat :=
  let cells := rows.filterMap fun row => row[index]?
  (cells.map fun cell => width cell.display).foldl max (width column.name)

/-- The widths of the columns over the rows that are shown. -/
def columnWidths (columns : List Column) (rows : List Row) : List Nat :=
  columns.mapIdx (columnWidth rows)

/-! ## Lines -/

/-- The texts in columns of the widths. -/
def textLine (widths : List Nat) (texts : List String) : Except PadError String :=
  ((texts.zip widths).mapM fun pair => pad pair.2 pair.1).map (" | ".intercalate ·)

/-- The names of the columns. -/
def headerLine (columns : List Column) (widths : List Nat) : Except PadError String :=
  textLine widths (columns.map Column.name)

/-- The rule under the names. -/
def ruleLine (widths : List Nat) : String :=
  "-+-".intercalate (widths.map fun w => .ofList (List.replicate w '-'))

/-- The cells of one row. -/
def rowLine (widths : List Nat) (row : Row) : Except PadError String :=
  textLine widths (row.map Cell.display)

/-- The names and the rule. -/
def headerLines (columns : List Column) (widths : List Nat) : Except PadError (List String) :=
  (headerLine columns widths).map ([·, ruleLine widths])

/-- The line that tells the number of rows. -/
def countLine (total : Nat) : String :=
  "(" ++ toString total ++ " rows)"

/-- The line that stands for the rows that are not shown. -/
def omissionLine (total : Nat) : String :=
  "... (Total " ++ toString total ++ " rows, middle part omitted) ..."

/-! ## Tables -/

/-- All rows under the names. -/
def fullText (columns : List Column) (widths : List Nat) (rows : List Row) :
    Except PadError String := do
  let header ← headerLines columns widths
  let lines ← rows.mapM (rowLine widths)
  return "\n".intercalate (header ++ lines ++ [countLine rows.length])

/-- The whole table. -/
def full (t : Table) : Except PadError String :=
  if t.rows.isEmpty then
    .ok "(0 rows)"
  else
    fullText t.columns (columnWidths t.columns t.rows) t.rows

/-- The first rows of a long table. -/
def headRows (rows : List Row) : List Row :=
  rows.take previewEdge

/-- The last rows of a long table. -/
def tailRows (rows : List Row) : List Row :=
  rows.drop (rows.length - previewEdge)

/-- The first and the last of so many rows under the names. -/
def previewText (columns : List Column) (widths : List Nat) (total : Nat)
    (first last : List Row) : Except PadError String := do
  let header ← headerLines columns widths
  let firstLines ← first.mapM (rowLine widths)
  let lastLines ← last.mapM (rowLine widths)
  return "\n".intercalate (header ++ firstLines ++ [omissionLine total] ++ lastLines)

/-- The table as it is shown under a message. -/
def preview (t : Table) : Except PadError String :=
  if t.rows.length ≤ previewLimit then
    full t
  else
    let first := headRows t.rows
    let last := tailRows t.rows
    previewText t.columns (columnWidths t.columns (first ++ last)) t.rows.length first last

end Grid

/-- The message, and under it the rows to show. -/
def Report.render (report : Report) : Except Grid.PadError String :=
  match report.table with
  | some table => (Grid.preview table).map (report.message ++ "\n" ++ ·)
  | none => .ok report.message

end TableShell
