import TableShell.Cell
import TableShell.Text.Blank
import TableShell.Text.LetterCase

/-!
# Texts as cells

Every text that enters the table becomes a cell here. `infer` guesses the cell of a text that heads
into a new column, `cast` turns a text toward the type of an existing one. Neither fails: a text
that does not fit is kept as text, and the texts that mean "no value" become missing cells.
-/

namespace TableShell

namespace Text

/-- The words for a missing value, in any case. -/
def missingWords : List String :=
  ["nan", "na", "<na>", "none", ""]

/-- The text is one of the words for a missing value. -/
def isMissingWord (s : String) : Bool :=
  missingWords.any (sameIgnoringAsciiCase s)

/-- The truth value that the text is a word for, in any case. -/
def readBool? (s : String) : Option Bool :=
  if ["true", "1", "t", "yes"].any (sameIgnoringAsciiCase s) then
    some true
  else if ["false", "0", "f", "no"].any (sameIgnoringAsciiCase s) then
    some false
  else
    none

/-- The whole number between the blanks of the text. -/
def readInteger? (s : String) : Option Int64 :=
  Integer.read? (trimChars s.toList)

/-- The number between the blanks of the text. -/
def readNumber? (s : String) : Option Binary64 :=
  Binary64.read? (trimChars s.toList)

/-- The text spells what is not a number, such as `-nan`. -/
def isNaN (s : String) : Bool :=
  readNumber? s == some .nan

/-- The text means that there is no value. -/
def meansMissing (s : String) : Bool :=
  isMissingWord s || isNaN s

end Text

namespace Cell

open Text

/-- The cell that the text looks like: a whole number, a number, a truth value, or else text. -/
def infer (s : String) : Cell :=
  match readInteger? s, readNumber? s with
  | some i, _ => integer i
  | none, some .nan => missing
  | none, some x => float x
  | none, none =>
    if sameIgnoringAsciiCase (trim s) "true" then
      boolean true
    else if sameIgnoringAsciiCase (trim s) "false" then
      boolean false
    else
      text s

/-- The type of a new column that is to hold the texts. -/
def inferType (texts : List String) : ColumnType :=
  commonType ((texts.filter fun s => !meansMissing s).map infer)

/-- The whole part of a finite number, moved to the nearest whole number of 64 bits. -/
def truncate? : Binary64 → Option Int64
  | .finite negative m => some (Integer.saturate (if negative then -(m.floor : Int) else m.floor))
  | _ => none

/-- The cell of a text in a column of the type. -/
def cast (s : String) (type : ColumnType) : Cell :=
  if meansMissing s then
    missing
  else
    match type with
    | .unknown => infer s
    | .integer =>
      match readInteger? s with
      | some i => integer i
      | none =>
        match (readNumber? s).bind truncate? with
        | some i => integer i
        | none => text s
    | .float => ((readNumber? s).map float).getD (text s)
    | .boolean => ((readBool? s).map boolean).getD (text s)
    | .text => text s

end Cell
end TableShell
