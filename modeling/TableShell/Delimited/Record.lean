import TableShell.Text.Blank

/-!
# Records of a delimited text

A text is cut into records at line breaks, and a record into fields at the delimiter. A field in
double quotes may hold both, and a quote written twice inside it stands for one. It is remembered
whether a field was quoted, so that `""` is an empty text while nothing at all is no value.
-/

namespace TableShell
namespace Delimited

/-- One field of a record. -/
structure Field where
  text : String
  quoted : Bool
deriving DecidableEq, Inhabited

/-- The fields of a record, and the line on which it begins. -/
structure Record where
  line : Nat
  fields : List Field
deriving DecidableEq, Inhabited

/-- Why a text is no table. -/
inductive Error
  | unclosedQuote (line : Nat)
  | tooManyFields (line expected found : Nat)
  | duplicateColumn (name : String)
  | emptyText
deriving DecidableEq

/-- The wording of an error. -/
def Error.message : Error → String
  | unclosedQuote line => "Parse error at line " ++ toString line ++ ": Unclosed quote"
  | tooManyFields line expected found =>
    "Parse error at line " ++ toString line ++ ": expected " ++ toString expected ++
      " fields, found " ++ toString found
  | duplicateColumn name => "Duplicate column name: " ++ name
  | emptyText => "Empty CSV file"

/-- What has been read of the record at hand. -/
structure Reading where
  /-- The characters of the field at hand, in reverse. -/
  taken : List Char
  /-- The field at hand had a quote. -/
  quoted : Bool
  /-- The next character stands inside quotes. -/
  inQuotes : Bool
  /-- The finished fields, in reverse. -/
  done : List Field
  /-- The line of the next character. -/
  line : Nat
  /-- The line on which the record began. -/
  start : Nat
deriving DecidableEq

namespace Reading

/-- Nothing has been read of a record that begins on the line. -/
def fresh (line : Nat) : Reading :=
  ⟨[], false, false, [], line, line⟩

/-- The field at hand. Blanks around an unquoted one do not count. -/
def field (r : Reading) : Field :=
  let cs := r.taken.reverse
  ⟨.ofList (if r.quoted then cs else Text.trimChars cs), r.quoted⟩

/-- The fields of the record, if it ends here. -/
def fields (r : Reading) : List Field :=
  (r.field :: r.done).reverse

/-- One more character of the field. -/
def take (r : Reading) (c : Char) : Reading :=
  { r with taken := c :: r.taken }

/-- One more character of the field inside quotes, where a line may end. -/
def takeQuoted (r : Reading) (c : Char) : Reading :=
  { r.take c with line := if c = '\n' then r.line + 1 else r.line }

/-- A quote opens: what the field had before it does not count. -/
def openQuote (r : Reading) : Reading :=
  { r with taken := [], quoted := true, inQuotes := true }

/-- The quote closes. -/
def closeQuote (r : Reading) : Reading :=
  { r with inQuotes := false }

/-- The field ends at a delimiter. -/
def endField (r : Reading) : Reading :=
  { r with taken := [], quoted := false, done := r.field :: r.done }

/-- The record that ends at a line break; a blank line is none. -/
def record? (r : Reading) : Option Record :=
  match r.fields with
  | [⟨"", false⟩] => none
  | fields => some ⟨r.start, fields⟩

/-- The record that ends with the text; an empty line is none. -/
def lastRecord? (r : Reading) : Option Record :=
  if r.taken = [] ∧ r.quoted = false ∧ r.done = [] then none else some ⟨r.start, r.fields⟩

end Reading

/-- The records of the characters, where `r` has been read before them. -/
def scan (delimiter : Char) (r : Reading) : List Char → Except Error (List Record)
  | [] => if r.inQuotes then .error (.unclosedQuote r.start) else .ok r.lastRecord?.toList
  | c :: rest =>
    if r.inQuotes then
      if c = '"' then
        match rest with
        -- a quote written twice
        | '"' :: rest => scan delimiter (r.take '"') rest
        | rest => scan delimiter r.closeQuote rest
      else
        scan delimiter (r.takeQuoted c) rest
    else if c = '"' then
      scan delimiter r.openQuote rest
    else if c = delimiter then
      scan delimiter r.endField rest
    else if c = '\n' then
      (scan delimiter (.fresh (r.line + 1)) rest).map (r.record?.toList ++ ·)
    else if c = '\r' then
      match rest with
      -- both characters are one line break
      | '\n' :: rest => (scan delimiter (.fresh (r.line + 1)) rest).map (r.record?.toList ++ ·)
      | rest => (scan delimiter (.fresh (r.line + 1)) rest).map (r.record?.toList ++ ·)
    else if r.quoted then
      -- what follows the closing quote does not count
      scan delimiter r rest
    else
      scan delimiter (r.take c) rest

/-- The records of a text. -/
def records (delimiter : Char) (text : String) : Except Error (List Record) :=
  scan delimiter (.fresh 1) text.toList

end Delimited
end TableShell
