import TableShell.Words

/-!
# Lines that are no commands

The causes for which a line gives no command, and their wording. A line either has not the form of
its command (`isMalformed`), or it has the form but leaves out what the command needs.
-/

namespace TableShell

/-- Where a command expects `column=text`. -/
inductive PairRole
  | updateCondition
  | updateAssignment
  | deleteCondition
deriving DecidableEq

/-- Why a line gives no command. -/
inductive LineError
  | words (cause : Words.Error)
  | missingSet
  | noPair (role : PairRole) (argument : String)
  | notOnePair
  | noCommand
  | addWithoutPairs
  | batchWithoutLists
  | unevenLists (column : String) (found expected : Nat)
  | updateWithoutConditions
  | updateWithoutAssignments
  | deleteWithoutArguments
  | deleteWithoutConditions
  | searchWithoutKeyword
  | unknownCommand (word : String)
deriving DecidableEq

namespace LineError

/-- The line has not the form of its command. -/
def isMalformed : LineError → Bool
  | words _ | missingSet | noPair _ _ | notOnePair => true
  | _ => false

/-- What is wrong, in the words of the user's language. -/
def description : LineError → String
  | words cause => cause.message
  | missingSet =>
    "update command format error: missing 'set' keyword. Usage: update " ++
      "condition1=value1 ... set update_col1=new_val1 ..."
  | noPair .updateCondition argument =>
    "update command format error: condition '" ++ argument ++ "' format is incorrect."
  | noPair .updateAssignment argument =>
    "update command format error: update '" ++ argument ++ "' format is incorrect."
  | noPair .deleteCondition argument =>
    "delete command format error: condition '" ++ argument ++
      "' format is incorrect. Expected 'column=value'."
  | notOnePair =>
    "search_exact command format error. Usage: search_exact column_name=value_to_search"
  | noCommand => "No command input"
  | addWithoutPairs => "add requires fields and values, e.g., add name=Tom age=18"
  | batchWithoutLists =>
    "add_batch requires column lists, e.g., add_batch name=Tom,Alice,Bob age=25,30,28"
  | unevenLists column found expected =>
    "All columns must have the same number of values. Column '" ++ column ++ "' has " ++
      toString found ++ " values, but expected " ++ toString expected ++ "."
  | updateWithoutConditions => "update command format error: missing update conditions."
  | updateWithoutAssignments =>
    "update command format error: missing fields and values to update."
  | deleteWithoutArguments =>
    "delete command requires conditions, e.g., delete name=Tom age=30. For bulk delete " ++
      "confirmation, add confirm=yes"
  | deleteWithoutConditions =>
    "delete command requires conditions to specify which rows to delete (beyond just " ++
      "'confirm=yes')."
  | searchWithoutKeyword => "search command requires a keyword. Usage: search <keyword>"
  | unknownCommand word =>
    "Unknown command: '" ++ word ++ "'. Type 'help' for available commands."

/-- The wording of the error. -/
def message (e : LineError) : String :=
  if e.isMalformed then "Parse error: " ++ e.description else e.description

end LineError
end TableShell
