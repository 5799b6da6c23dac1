import TableShell.OrderedMap

/-!
# Commands

What a line, or a structured request, asks the shell to do with the table.
-/

namespace TableShell

/-- Column names and the condition on each, in the order of the command. -/
abbrev Conditions := OrderedMap String

/-- Column names and the text to write into each, in the order of the command. -/
abbrev Assignments := OrderedMap String

/-- A command whose form has been checked. -/
inductive Command
  | help
  | clear
  | list
  | columns
  | add (values : Assignments)
  /-- As many rows as `rowCount`; the lists give the texts of each column from the first row on. -/
  | addBatch (columns : OrderedMap (List String)) (rowCount : Nat)
  | update (conditions : Conditions) (assignments : Assignments)
  | delete (conditions : Conditions) (confirmed : Bool)
  | deleteAll (confirmed : Bool)
  | search (keyword : String)
  | searchExact (column condition : String)
deriving DecidableEq

namespace Command

/-- The word that a line begins with to give the command. -/
def name : Command → String
  | help => "help"
  | clear => "clear"
  | list => "list"
  | columns => "columns"
  | add _ => "add"
  | addBatch _ _ => "add_batch"
  | update _ _ => "update"
  | delete _ _ => "delete"
  | deleteAll _ => "delete_all"
  | search _ => "search"
  | searchExact _ _ => "search_exact"

end Command

/-- Pairs as messages quote them: `\x7ba: 1, b: x\x7d`. -/
def describePairs (pairs : List (String × String)) : String :=
  "\x7b" ++ ", ".intercalate (pairs.map fun pair => pair.1 ++ ": " ++ pair.2) ++ "\x7d"

end TableShell
