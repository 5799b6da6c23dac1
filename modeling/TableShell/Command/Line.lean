import TableShell.Command
import TableShell.Command.LineError
import TableShell.Text.LetterCase
import TableShell.Text.Split

/-!
# Commands from lines

The first word of a line names the command, in any letter case; the other words are its arguments.
Most arguments are pairs `column=text`, cut at the first `=`.
-/

namespace TableShell
namespace Command

open Text

/-- The argument that confirms the deletion of many rows. -/
def deleteConfirmation : String := "confirm=yes"

/-- The argument that confirms the deletion of all rows. -/
def deleteAllConfirmation : String := "confirm"

/-- The argument between the conditions and the assignments of an update. -/
def setWord : String := "set"

/-- The parts of an argument before and after its first `=`. -/
def pair? (argument : String) : Option (String × String) :=
  (splitFirst? '=' argument.toList).map fun parts => (.ofList parts.1, .ofList parts.2)

/-- The pairs among the arguments. -/
def loosePairs (arguments : List String) : OrderedMap String :=
  .ofList (arguments.filterMap pair?)

/-- The pairs that the arguments are, each one. -/
def strictPairs (role : PairRole) (arguments : List String) :
    Except LineError (OrderedMap String) :=
  OrderedMap.ofList <$> arguments.mapM fun argument =>
    match pair? argument with
    | some pair => .ok pair
    | none => .error (.noPair role argument)

/-- The values of a list, cut at commas and trimmed. -/
def listValues (list : String) : List String :=
  (pieces ',' list.toList).map fun piece => .ofList (trimChars piece)

/-- Every list must have as many values as the first. -/
def checkLengths : List (String × List String) → Except LineError Nat
  | [] => .ok 0
  | (_, values) :: rest =>
    match rest.find? fun entry => entry.2.length ≠ values.length with
    | none => .ok values.length
    | some (column, uneven) => .error (.unevenLists column uneven.length values.length)

/-- The command `add`. -/
def readAdd (arguments : List String) : Except LineError Command :=
  let values := loosePairs arguments
  if values.isEmpty then .error .addWithoutPairs else .ok (add values)

/-- The command `add_batch`. -/
def readAddBatch (arguments : List String) : Except LineError Command :=
  let lists := loosePairs arguments
  if lists.isEmpty then
    .error .batchWithoutLists
  else
    let columns := lists.map listValues
    (checkLengths columns.entries).map (addBatch columns)

/-- The command `update`. -/
def readUpdate (arguments : List String) : Except LineError Command :=
  let before := arguments.takeWhile (· ≠ setWord)
  match arguments.dropWhile (· ≠ setWord) with
  | [] => .error .missingSet
  | _ :: after =>
    if before.isEmpty then
      .error .updateWithoutConditions
    else if after.isEmpty then
      .error .updateWithoutAssignments
    else do
      let conditions ← strictPairs .updateCondition before
      let assignments ← strictPairs .updateAssignment after
      return update conditions assignments

/-- The argument confirms the deletion of many rows. -/
def isDeleteConfirmation (argument : String) : Bool :=
  sameIgnoringAsciiCase argument deleteConfirmation

/-- The command `delete`. -/
def readDelete (arguments : List String) : Except LineError Command :=
  let conditionArguments := arguments.filter fun argument => !isDeleteConfirmation argument
  if arguments.isEmpty then
    .error .deleteWithoutArguments
  else if conditionArguments.isEmpty then
    .error .deleteWithoutConditions
  else do
    let conditions ← strictPairs .deleteCondition conditionArguments
    return delete conditions (arguments.any isDeleteConfirmation)

/-- The command `delete_all`. -/
def readDeleteAll (arguments : List String) : Command :=
  deleteAll <| match arguments with
    | first :: _ => sameIgnoringAsciiCase first deleteAllConfirmation
    | [] => false

/-- The command `search`. -/
def readSearch : List String → Except LineError Command
  | keyword :: _ => .ok (search keyword)
  | [] => .error .searchWithoutKeyword

/-- The command `search_exact`. -/
def readSearchExact : List String → Except LineError Command
  | [argument] =>
    match pair? argument with
    | some (column, condition) => .ok (searchExact column condition)
    | none => .error .notOnePair
  | _ => .error .notOnePair

/-- The command that the words give. -/
def ofWords : List String → Except LineError Command
  | [] => .error .noCommand
  | first :: arguments =>
    let word := lower first
    if word = "help" then .ok help
    else if word = "clear" then .ok clear
    else if word = "list" then .ok list
    else if word = "columns" then .ok columns
    else if word = "add" then readAdd arguments
    else if word = "add_batch" then readAddBatch arguments
    else if word = "update" then readUpdate arguments
    else if word = "delete" then readDelete arguments
    else if word = "delete_all" then .ok (readDeleteAll arguments)
    else if word = "search" then readSearch arguments
    else if word = "search_exact" then readSearchExact arguments
    else .error (.unknownCommand word)

/-- The words of a line, as a step of reading a command. -/
def wordsOf (line : String) : Except LineError (List String) :=
  (Words.read line).mapError .words

/-- The command that the line gives. -/
def read (line : String) : Except LineError Command :=
  wordsOf line >>= ofWords

end Command
end TableShell
