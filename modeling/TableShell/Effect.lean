import TableShell.Condition
import TableShell.Report.Help
import TableShell.Report
import TableShell.Words
import TableShell.Command.Line

/-!
# Effects of commands

`Table.apply` gives what a command does to a table: a report, and the new table if the command
changes it. A refused command changes nothing. A deletion of more than ten rows, and one of all
rows, is refused until it is confirmed.
-/

namespace TableShell

/-- Why a command is not carried out. -/
inductive Refusal
  | unknownColumn (name : String)
  | unconfirmedDelete (conditions : Conditions) (rows : Nat)
  | unconfirmedDeleteAll (rows : Nat)
deriving DecidableEq

namespace Refusal

/-- The line that gives a deletion again, with its confirmation. -/
def confirmedLine (conditions : Conditions) : String :=
  let pairs := conditions.entries.map fun entry =>
    Words.quote entry.1 ++ "=" ++ Words.quote entry.2
  "delete " ++ " ".intercalate pairs ++ " " ++ Command.deleteConfirmation

/-- The wording of a refusal. -/
def message : Refusal → String
  | unknownColumn name => "Column '" ++ name ++ "' does not exist."
  | unconfirmedDelete conditions rows =>
    "Warning: This command will delete " ++ toString rows ++ " rows. To proceed, add '" ++
      Command.deleteConfirmation ++ "' to your command. E.g., " ++ confirmedLine conditions
  | unconfirmedDeleteAll rows =>
    "Warning: You are about to delete all " ++ toString rows ++
      " rows. To confirm, type: delete_all confirm"

end Refusal

/-- What a command did: its report, and the table after it if that is another one. -/
structure Applied where
  report : Report
  changed : Option Table
deriving DecidableEq

namespace Applied

/-- The outcome of a command that only looks. -/
def read (report : Report) : Applied :=
  ⟨report, none⟩

/-- The outcome of a command that touched rows of the table. -/
def write (message : String) (rows : Nat) (table : Table) : Applied :=
  ⟨.touched message rows, some table⟩

end Applied

namespace Table

/-- A deletion of more rows than this has to be confirmed. -/
def unconfirmedLimit : Nat := 10

/-! ## Looking -/

/-- The command `list`. -/
def list (t : Table) : Report :=
  if t.rows.isEmpty then
    .say .warning "No data available."
  else
    .showing ("Showing all " ++ toString t.rows.length ++ " row(s).") t

/-- A column with its type. -/
def describeColumn (column : Column) : String :=
  column.name ++ " (" ++ column.type.name ++ ")"

/-- The command `columns`. -/
def describeColumns (t : Table) : Report :=
  if t.rows.isEmpty then
    .say .warning "No data loaded."
  else
    .say .info <| "Available columns (" ++ toString t.columns.length ++ "): " ++
      ", ".intercalate (t.columns.map describeColumn)

/-- Some cell of the row contains the text, whatever the letter case of either. -/
def rowContains (keyword : String) (row : Row) : Bool :=
  let needle := Text.lowerChars keyword.toList
  row.any fun cell => Text.occursIn needle (Text.lowerChars cell.searchText.toList)

/-- The command `search`. -/
def search (t : Table) (keyword : String) : Report :=
  if t.rows.isEmpty then
    .say .warning "No data to search."
  else
    let found := t.filter (t.rows.map (rowContains keyword))
    if found.rows.isEmpty then
      .say .info ("No rows found containing '" ++ keyword ++ "'.")
    else
      .showing ("Found " ++ toString found.rows.length ++ " row(s) containing '" ++ keyword ++ "'.")
        found

/-- The command `search_exact`. -/
def searchExact (t : Table) (column condition : String) : Except Refusal Report :=
  if t.rows.isEmpty then
    .ok (.say .warning "No data to search.")
  else
    match t.selection? column condition with
    | none => .error (.unknownColumn column)
    | some mask =>
      let found := t.filter mask
      let what := "'" ++ column ++ "' matches '" ++ condition ++ "'."
      if found.rows.isEmpty then
        .ok (.say .info ("No rows found where " ++ what))
      else
        .ok (.showing ("Found " ++ toString found.rows.length ++ " row(s) where " ++ what) found)

/-! ## Appending -/

/-- The table with the column ready for the texts: created, or typed if its type was unknown. -/
def prepareColumn (t : Table) (name : String) (texts : List String) : Table :=
  match t.columnIndex? name with
  | some index =>
    if (t.columns[index]?.map Column.type) = some .unknown then
      t.setType index (Cell.inferType texts)
    else
      t
  | none => t.addColumn name (Cell.inferType texts)

/-- The table with all the columns ready for their texts. -/
def prepareColumns (t : Table) (columns : OrderedMap (List String)) : Table :=
  columns.entries.foldl (fun t entry => t.prepareColumn entry.1 entry.2) t

/-- The text that the lists supply for a column in the row of number `i`. -/
def suppliedText? (t : Table) (columns : OrderedMap (List String)) (i index : Nat)
    (name : String) : Option String :=
  if t.columnIndex? name = some index then
    (columns.get? name).bind fun texts => texts[i]?
  else
    none

/-- The new row of number `i`: a supplied text is cast to the type of its column, another column
takes its default. -/
def newRow (prepared : Table) (defaults : List Cell) (columns : OrderedMap (List String))
    (i : Nat) : Row :=
  prepared.columns.mapIdx fun index column =>
    match prepared.suppliedText? columns i index column.name with
    | some text => Cell.cast text column.type
    | none => defaults[index]?.getD .missing

/-- The table with `rowCount` rows more. Defaults are those of the types before the command. -/
def append (t : Table) (columns : OrderedMap (List String)) (rowCount : Nat) : Table :=
  let defaults := t.columns.map fun column => column.type.defaultCell
  let prepared := t.prepareColumns columns
  -- a row takes the types of its columns as they are now, its defaults as they were
  let rows := (List.range rowCount).map (prepared.newRow defaults columns)
  { prepared with rows := prepared.rows ++ rows }.settleTypes

/-- The cells of a row under the names of their columns. -/
def describeRow (t : Table) (row : Row) : String :=
  let cells := (t.columnNames.zip row).map fun pair => (pair.1, pair.2.display)
  describePairs (OrderedMap.ofList cells).entries

/-- The command `add`. -/
def add (t : Table) (values : Assignments) : Applied :=
  let t' := t.append (values.map fun text => [text]) 1
  let row := t'.rows[t.rows.length]?.getD []
  .write ("Row added successfully: " ++ t'.describeRow row) 1 t'

/-- The command `add_batch`. -/
def addBatch (t : Table) (columns : OrderedMap (List String)) (rowCount : Nat) : Applied :=
  .write ("Added " ++ toString rowCount ++ " rows successfully") rowCount
    (t.append columns rowCount)

/-! ## Changing and deleting -/

/-- The rows with `f` applied to those that the mask selects. -/
def mapSelected (f : Row → Row) : (rows : List Row) → (mask : List Bool) → List Row
  | row :: rows, selected :: mask =>
    (if selected then f row else row) :: mapSelected f rows mask
  | rows, _ => rows

/-- The table with the text written to one column of the selected rows. -/
def assignColumn (mask : List Bool) (t : Table) (name text : String) : Table :=
  let index := t.indexForColumn name
  let t' := t.addColumn name (Cell.inferType [text])
  let type := (t'.columns[index]?.map Column.type).getD .unknown
  { t' with rows := mapSelected (·.set index (Cell.cast text type)) t'.rows mask }

/-- The table with all the texts written to their columns in the selected rows. -/
def assign (mask : List Bool) (t : Table) (assignments : Assignments) : Table :=
  assignments.entries.foldl (fun t entry => assignColumn mask t entry.1 entry.2) t

/-- The command `update`. -/
def update (t : Table) (conditions : Conditions) (assignments : Assignments) :
    Except Refusal Applied :=
  if t.rows.isEmpty then
    .ok (.read (.say .warning "No data to update."))
  else do
    let mask ← (t.selectAll conditions).mapError .unknownColumn
    let matched := mask.count true
    if matched = 0 then
      return .read (.say .info "No rows found matching conditions for update.")
    else
      let message := "Updated " ++ toString matched ++ " row(s). Conditions: " ++
        describePairs conditions.entries ++ ", Updates: " ++ describePairs assignments.entries
      return .write message matched (assign mask t assignments)

/-- The command `delete`. -/
def delete (t : Table) (conditions : Conditions) (confirmed : Bool) : Except Refusal Applied :=
  if t.rows.isEmpty then
    .ok (.read (.say .warning "No data to delete."))
  else do
    let mask ← (t.selectAll conditions).mapError .unknownColumn
    let matched := mask.count true
    if matched = 0 then
      return .read (.say .info "No rows found matching conditions for delete.")
    else if matched > unconfirmedLimit && !confirmed then
      throw (.unconfirmedDelete conditions matched)
    else
      let t' := t.remove mask
      let removed := t.rows.length - t'.rows.length
      let message := "Deleted " ++ toString removed ++ " row(s). Conditions: " ++
        describePairs conditions.entries
      return .write message removed t'

/-- The command `delete_all`. -/
def deleteAll (t : Table) (confirmed : Bool) : Except Refusal Applied :=
  let rows := t.rows.length
  if t.rows.isEmpty then
    .ok (.read (.say .warning "No data to delete."))
  else if confirmed then
    .ok (.write ("All data deleted. Original row count: " ++ toString rows) rows .empty)
  else
    .error (.unconfirmedDeleteAll rows)

/-! ## All commands -/

/-- What the command does to the table. -/
def apply (t : Table) : Command → Except Refusal Applied
  | .help => .ok (.read (.say .info helpText))
  | .clear => .ok (.read (.say .success "Terminal cleared."))
  | .list => .ok (.read t.list)
  | .columns => .ok (.read t.describeColumns)
  | .add values => .ok (t.add values)
  | .addBatch columns rowCount => .ok (t.addBatch columns rowCount)
  | .update conditions assignments => t.update conditions assignments
  | .delete conditions confirmed => t.delete conditions confirmed
  | .deleteAll confirmed => t.deleteAll confirmed
  | .search keyword => .ok (.read (t.search keyword))
  | .searchExact column condition => (t.searchExact column condition).map .read

/-- The table after the command. -/
def after (t : Table) (command : Command) : Table :=
  match t.apply command with
  | .ok applied => applied.changed.getD t
  | .error _ => t

end Table
end TableShell
