import TableShell.Json.Writer
import TableShell.Report

/-!
# Reports and tables as JSON

A table is an object of its columns, its rows and their number; a report adds what it has to say.
JSON has no infinite numbers, so these are written as texts.
-/

namespace TableShell

/-- The cell as a JSON value. -/
def Cell.toJson : Cell → Json
  | integer i => .integer i.toInt
  | float x => if x.isFinite then .float x else .string (.ofList x.cellText)
  | boolean b => .bool b
  | text s => .string s
  | missing => .null

/-- The column as a JSON value. -/
def Column.toJson (column : Column) : Json :=
  .object [("name", .string column.name), ("data_type", .string column.type.name)]

/-- The table as a JSON value. -/
def Table.toJson (t : Table) : Json :=
  .object
    [("columns", .array (t.columns.map Column.toJson)),
     ("rows", .array (t.rows.map fun row => .array (row.map Cell.toJson))),
     ("row_count", .integer t.rows.length)]

/-- The report as a JSON value; what it does not have is left out. -/
def Report.toJson (report : Report) : Json :=
  let rows := report.affectedRows.map fun n => ("affected_rows", Json.integer n)
  let table := report.table.map fun t => ("table", t.toJson)
  .object <|
    [("severity", .string report.severity.name), ("message", .string report.message)] ++
      rows.toList ++ table.toList

end TableShell
