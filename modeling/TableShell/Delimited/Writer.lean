import TableShell.Cell.Coercion
import TableShell.Table

/-!
# Delimited texts of tables

A table is written as the reader reads it: names, then rows, each ended by a line break. A text is
quoted where it would be read as something else. A table without columns is written as nothing.
-/

namespace TableShell
namespace Delimited

open Text

/-- Bare, the text would be read as something else. -/
def needsQuotes (delimiter : Char) (s : String) : Bool :=
  let cs := s.toList
  meansMissing s || cs.contains delimiter || cs.contains '"' || cs.contains '\n' ||
    cs.contains '\r' || trimChars cs != cs

/-- A quote inside quotes is written twice. -/
def escapeChar (c : Char) : List Char :=
  if c = '"' then ['"', '"'] else [c]

/-- The text as a field. -/
def escape (delimiter : Char) (s : String) : String :=
  if needsQuotes delimiter s then
    .ofList ('"' :: s.toList.flatMap escapeChar ++ ['"'])
  else
    s

/-- The cell as a field. -/
def fieldText (delimiter : Char) : Cell → String
  | .missing => ""
  | .text s => escape delimiter s
  | cell => cell.display

/-- Fields as one record. -/
def join (delimiter : Char) (fields : List String) : String :=
  (String.singleton delimiter).intercalate fields

/-- The line of the names. -/
def headerText (delimiter : Char) (t : Table) : String :=
  join delimiter (t.columns.map fun column => escape delimiter column.name)

/-- What stands for a row whose line would be empty, as a blank line is no record. -/
def missingRow : String := "NA"

/-- The line of a row. -/
def rowText (delimiter : Char) (row : Row) : String :=
  let line := join delimiter (row.map (fieldText delimiter))
  if line = "" then missingRow else line

/-- The text of the table. -/
def write (delimiter : Char) (t : Table) : String :=
  if t.columns.isEmpty then
    ""
  else
    let lines := headerText delimiter t :: t.rows.map (rowText delimiter)
    String.join (lines.map (· ++ "\n"))

end Delimited
end TableShell
