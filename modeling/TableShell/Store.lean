import TableShell.Delimited.Reader
import TableShell.Delimited.Writer
import TableShell.Store.FileTree

/-!
# Stores

A store keeps the one table of the shell, in memory or as a delimited text in a file. The file
carries names and fields only, so what is loaded from it is what its text reads as. A file that is
not there, or holds nothing, is the empty table.
-/

namespace TableShell

/-- Why a file gives no table. -/
inductive ReadCause
  | text (cause : Delimited.Error)
  | file (cause : FileError)
deriving DecidableEq

/-- The wording of a cause. -/
def ReadCause.message : ReadCause → String
  | text cause => cause.message
  | file cause => "IO error: " ++ cause.message

/-- Why a store fails. -/
inductive StoreError
  | read (location : String) (cause : ReadCause)
  | write (location : String) (cause : FileError)
deriving DecidableEq

/-- The wording of a failure. -/
def StoreError.message : StoreError → String
  | read location cause => "Failed to read " ++ location ++ ": " ++ cause.message
  | write location cause => "Failed to write " ++ location ++ ": " ++ cause.message

/-- Where the table is kept. -/
inductive Store
  | memory (table : Table)
  | file (location : String) (delimiter : Char) (tree : FileTree)
deriving DecidableEq

/-- What a store holds: a table, or what stands in its file. -/
inductive Contents
  | table (table : Table)
  | file (content : Option FileContent)
deriving DecidableEq

namespace Store

/-- What the store holds. -/
def contents : Store → Contents
  | memory table => .table table
  | file location _ tree =>
    match tree.entry location with
    | .ok (.file content) => .file (some content)
    | _ => .file none

/-- The table in the store. -/
def load : Store → Except StoreError Table
  | memory table => .ok table
  | file location delimiter tree =>
    if tree.standsAt location then
      match tree.readText location with
      | .error e => .error (.read location (.file e))
      | .ok text =>
        match Delimited.read delimiter text with
        | .ok table => .ok table
        | .error .emptyText => .ok .empty
        | .error e => .error (.read location (.text e))
    else
      .ok .empty

/-- The store with the table in it, and what went wrong. -/
def save (table : Table) : Store → Store × Option StoreError
  | memory _ => (memory table, none)
  | file location delimiter tree =>
    let (tree, error) := tree.write location (.text (Delimited.write delimiter table))
    (file location delimiter tree, error.map (.write location))

end Store
end TableShell
