import TableShell.Cell.Coercion
import TableShell.Command
import TableShell.Table
import TableShell.Text.Split

/-!
# Conditions on columns

A condition is a text whose meaning depends on the type of its column: comparisons on numbers, truth
words on truth values, wildcards on texts. The words for a missing value select the missing cells
of any column, and nothing else ever selects one. `selection` gives the rows that satisfy a
condition, and `selectAll` those that satisfy every condition of a command.
-/

namespace TableShell

open Text

/-- How a number is compared with the operand of a condition. -/
inductive Comparison
  | atLeast
  | atMost
  | different
  | above
  | below
  | equal
deriving DecidableEq

namespace Comparison

/-- The sign in front of the operand. -/
def sign : Comparison → String
  | atLeast => ">="
  | atMost => "<="
  | different => "!="
  | above => ">"
  | below => "<"
  | equal => "="

/-- The comparisons whose sign is written, in the order in which they are tried: a sign stands
before its own beginnings. -/
def written : List Comparison :=
  [atLeast, atMost, different, above, below]

/-- The comparison and the operand that the characters spell; without a sign, equality. -/
def split (cs : List Char) : Comparison × List Char :=
  let tried := written.findSome? fun comparison =>
    (dropPrefix? comparison.sign.toList cs).map fun operand => (comparison, operand)
  tried.getD (equal, cs)

/-- The comparison holds of numbers in the given order, where no order means that one of them is
not a number. -/
def holds : Comparison → Option Ordering → Bool
  | atLeast, order => order = some .gt || order = some .eq
  | atMost, order => order = some .lt || order = some .eq
  | different, order => order ≠ some .eq
  | above, order => order = some .gt
  | below, order => order = some .lt
  | equal, order => order = some .eq

end Comparison

/-- What a condition means on a column. -/
inductive Predicate
  | isMissing
  | compares (comparison : Comparison) (operand : Binary64)
  | isBool (value : Bool)
  | isText (text : String) (ignoreCase : Bool)
  | contains (part : String)
  | endsWith (stop : String)
  | startsWith (start : String)
  | equals (text : String)
deriving DecidableEq

namespace Predicate

/-- The characters without the stars at either edge. -/
def trimStars (cs : List Char) : List Char :=
  ((cs.dropWhile (· = '*')).reverse.dropWhile (· = '*')).reverse

/-- The meaning of a condition on texts: a star at an edge stands for anything. -/
def ofPattern (condition : String) : Predicate :=
  let cs := condition.toList
  match cs.head? == some '*', cs.getLast? == some '*' with
  -- a single star is at both edges
  | true, true => contains (.ofList (trimStars cs))
  | true, false => endsWith (.ofList cs.tail)
  | false, true => startsWith (.ofList cs.dropLast)
  | false, false => equals condition

/-- The meaning of a condition on numbers. -/
def ofNumeric (condition : String) : Predicate :=
  let (comparison, operand) := Comparison.split condition.toList
  match Binary64.read? (trimChars operand) with
  | some n => compares comparison n
  | none => isText condition false

/-- The meaning of a condition on a column of the type. -/
def ofCondition (condition : String) (type : ColumnType) : Predicate :=
  if meansMissing condition then
    isMissing
  else
    match type with
    | .integer | .float => ofNumeric condition
    | .boolean =>
      match readBool? condition with
      | some b => isBool b
      | none => isText condition true
    | .text | .unknown => ofPattern condition

/-- The predicate holds of a text of a cell. -/
def holdsOfText (p : Predicate) (cellText : String) : Bool :=
  let cs := cellText.toList
  match p with
  | isText text true => lower cellText = lower text
  | isText text false => cellText = text
  | equals text => cellText = text
  | contains part => occursIn part.toList cs
  | endsWith stop => stop.toList.isSuffixOf cs
  | startsWith start => start.toList.isPrefixOf cs
  | isMissing | compares _ _ | isBool _ => false

/-- The predicate holds of a cell. -/
def holds (p : Predicate) (cell : Cell) : Bool :=
  match p with
  | isMissing => cell.isMissing
  | compares comparison operand =>
    match cell.number? with
    | some n => comparison.holds (n.compare? operand)
    | none => false
  | isBool value => cell.bool? = some value
  | _ => !cell.isMissing && p.holdsOfText cell.searchText

/-- A missing cell satisfies no other predicate than `isMissing`. -/
theorem holds_missing (p : Predicate) : p.holds .missing = true ↔ p = isMissing := by
  cases p <;> simp [holds, Cell.isMissing, Cell.number?, Cell.bool?]

end Predicate

namespace Table

/-- The cell at a position of the row satisfies the predicate; a row that ends before it does not. -/
def rowSatisfies (index : Nat) (p : Predicate) (row : Row) : Bool :=
  match row[index]? with
  | some cell => p.holds cell
  | none => false

/-- Which rows satisfy the condition on the column, if there is such a column. -/
def selection? (t : Table) (column condition : String) : Option (List Bool) :=
  match t.columnIndex? column with
  | none => none
  | some index =>
    let type := (t.columns[index]?.map Column.type).getD .unknown
    some (t.rows.map (rowSatisfies index (.ofCondition condition type)))

/-- Which rows satisfy every one of the conditions, or the first column that does not exist. -/
def selectAll (t : Table) (conditions : Conditions) : Except String (List Bool) :=
  conditions.entries.foldlM
    (fun mask entry =>
      match t.selection? entry.1 entry.2 with
      | some selected => .ok (List.zipWith and mask selected)
      | none => .error entry.1)
    (t.rows.map fun _ => true)

end Table
end TableShell
