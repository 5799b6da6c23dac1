import TableShell.Cell.Coercion
import TableShell.Delimited.Record
import TableShell.Table

/-!
# Tables from delimited texts

The first record names the columns, the others are rows; a short one is filled up with nothing. The
type of a column is not written: it is the common type of what its fields look like.
-/

namespace TableShell
namespace Delimited

open Text

namespace Field

/-- The field that fills up a short record. -/
def blank : Field :=
  ⟨"", false⟩

/-- The field holds no value. -/
def isMissing (f : Field) : Bool :=
  !f.quoted && meansMissing f.text

/-- The type that the field shows. -/
def type (f : Field) : ColumnType :=
  if f.isMissing then .unknown else (Cell.infer f.text).type

/-- The cell of the field in a column of the type. A quoted field is never missing. -/
def cell (type : ColumnType) (f : Field) : Cell :=
  if f.isMissing then
    .missing
  else if f.quoted && type = .text then
    .text f.text
  else
    match Cell.cast f.text type with
    | .missing => .text f.text
    | cell => cell

end Field

/-- The first name that repeats an earlier one. -/
def repeatedName? (seen : List String) : List String → Option String
  | [] => none
  | name :: rest => if name ∈ seen then some name else repeatedName? (name :: seen) rest

/-- The fields of a record, filled up to the given width. -/
def fillUp (width : Nat) (record : Record) : Except Error (List Field) :=
  let found := record.fields.length
  if found > width then
    .error (.tooManyFields record.line width found)
  else
    .ok (record.fields ++ List.replicate (width - found) .blank)

/-- The type of the column at a position. -/
def columnType (rows : List (List Field)) (index : Nat) : ColumnType :=
  let type := ColumnType.mergeAll (rows.filterMap fun row => row[index]?.map Field.type)
  if rows.isEmpty then type else type.settled

/-- The table of names and rows of fields. -/
def tableOf (names : List String) (rows : List (List Field)) : Table :=
  let types := (List.range names.length).map (columnType rows)
  { columns := List.zipWith Column.mk names types
    rows := rows.map fun row => List.zipWith Field.cell types row }

/-- The table of the records. -/
def ofRecords : List Record → Except Error Table
  | [] => .error .emptyText
  | header :: body =>
    let names := header.fields.map Field.text
    match repeatedName? [] names with
    | some name => .error (.duplicateColumn name)
    | none => (body.mapM (fillUp names.length)).map (tableOf names)

/-- The table that the text holds. -/
def read (delimiter : Char) (text : String) : Except Error Table :=
  records delimiter text >>= ofRecords

end Delimited
end TableShell
