import TableShell.Table

/-!
# Reports

What a command tells the user: a message and its severity, how many rows were touched, and a table
to show.
-/

namespace TableShell

/-- How a message is meant. -/
inductive Severity
  | info
  | success
  | warning
  | error
deriving DecidableEq, Inhabited

/-- The name of a severity. -/
def Severity.name : Severity → String
  | info => "info"
  | success => "success"
  | warning => "warning"
  | error => "error"

/-- The outcome of a command. -/
structure Report where
  severity : Severity
  message : String
  affectedRows : Option Nat
  table : Option Table
deriving DecidableEq, Inhabited

namespace Report

/-- A message alone. -/
def say (severity : Severity) (message : String) : Report :=
  ⟨severity, message, none, none⟩

/-- A message with rows to show. -/
def showing (message : String) (table : Table) : Report :=
  ⟨.info, message, none, some table⟩

/-- The success of a command that touched rows. -/
def touched (message : String) (rows : Nat) : Report :=
  ⟨.success, message, some rows, none⟩

end Report
end TableShell
