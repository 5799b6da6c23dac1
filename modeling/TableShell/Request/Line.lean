import TableShell.Command.Line
import TableShell.Request
import TableShell.Words

/-!
# Lines from structured requests

A request is carried out as the line that a user would type for it, so that an agent can do nothing
that a user cannot. Names and values are quoted as words; what no line can say is refused.
-/

namespace TableShell

/-- Why a request gives no line. -/
inductive RequestError
  /-- The text states no request; the cause is given. -/
  | unreadable (cause : String)
  | addWithoutData
  | batchWithoutRows
  | unevenRow (found expected : Nat)
  | commaInValue (value : String)
  | updateWithoutPairs
  | deleteWithoutConditions
  | confirmationAsCondition
  | searchWithoutKeyword
  | searchExactWithoutPair
  | badColumnName (name : String)
  /-- The agent itself reports an error. -/
  | reported (message : String)
deriving DecidableEq

namespace RequestError

/-- What is wrong with the request. -/
def description : RequestError → String
  | unreadable cause => cause
  | addWithoutData => "add requires a non-empty 'data' mapping"
  | batchWithoutRows => "add_batch requires non-empty 'columns' and 'values'"
  | unevenRow found expected =>
    "add_batch row has " ++ toString found ++ " values, but " ++ toString expected ++
      " columns were given"
  | commaInValue value => "add_batch value '" ++ value ++ "' contains ','"
  | updateWithoutPairs => "update requires non-empty 'conditions' and 'data'"
  | deleteWithoutConditions => "delete requires non-empty 'conditions'"
  | confirmationAsCondition =>
    "'" ++ Command.deleteConfirmation ++ "' cannot be used as a delete condition"
  | searchWithoutKeyword => "search requires a 'keyword'"
  | searchExactWithoutPair => "search_exact requires a 'column' and a 'value'"
  | badColumnName name => "invalid column name '" ++ name ++ "'"
  | reported message => message

/-- The wording of the error. -/
def message (e : RequestError) : String :=
  match e with
  | unreadable _ => "Structured command could not be decoded: " ++ e.description
  | reported _ => "Agent reported an error: " ++ e.description
  | _ => "Structured command cannot be translated: " ++ e.description

end RequestError

namespace Request

/-- What an agent says that reports an error without a message. -/
def defaultReport : String := "Only specified command formats are supported."

/-- The text of a value on a line; null becomes the empty word for a missing value. -/
def valueText : Json → String
  | .null => ""
  | .string s => s
  | json => json.compact

/-- A column name on a line. -/
def keyWord (name : String) : Except RequestError String :=
  if name = "" ∨ '=' ∈ name.toList then .error (.badColumnName name) else .ok (Words.quote name)

/-- A name and a value as one argument. -/
def pairWord (entry : String × Json) : Except RequestError String :=
  (keyWord entry.1).map fun key => key ++ "=" ++ Words.quote (valueText entry.2)

/-- Names and values as arguments. -/
def pairWords (pairs : OrderedMap Json) : Except RequestError (List String) :=
  pairs.entries.mapM pairWord

/-- A value in a list. -/
def listWord (value : Json) : Except RequestError String :=
  let text := valueText value
  if ',' ∈ text.toList then .error (.commaInValue text) else .ok (Words.quote text)

/-- A column with the list of its values, the value of each row at the position of the column. -/
def batchWord (rows : List (List Json)) (index : Nat) (column : String) :
    Except RequestError String := do
  let cells ← rows.mapM fun row => listWord (row[index]?.getD .null)
  let key ← keyWord column
  return key ++ "=" ++ ",".intercalate cells

/-- The arguments of `add_batch`. -/
def batchWords (names : List String) (rows : List (List Json)) :
    Except RequestError (List String) :=
  if names.isEmpty || rows.isEmpty then
    .error .batchWithoutRows
  else
    match rows.find? fun row => row.length ≠ names.length with
    | some row => .error (.unevenRow row.length names.length)
    | none => names.zipIdx.mapM fun entry => batchWord rows entry.2 entry.1

/-- The pair would be taken for the confirmation of a deletion. -/
def spellsConfirmation (entry : String × Json) : Bool :=
  Command.isDeleteConfirmation (entry.1 ++ "=" ++ valueText entry.2)

/-- The value is the truth value `true`. -/
def isTrue : Option Json → Bool
  | some (.bool true) => true
  | _ => false

/-- The words of the line, written as words. -/
def lineWords : Request → Except RequestError (List String)
  | list => .ok ["list"]
  | columns => .ok ["columns"]
  | add data =>
    if data.isEmpty then
      .error .addWithoutData
    else
      (pairWords data).map ("add" :: ·)
  | addBatch names rows => (batchWords names rows).map ("add_batch" :: ·)
  | update conditions data =>
    if conditions.isEmpty || data.isEmpty then
      .error .updateWithoutPairs
    else do
      let conditionWords ← pairWords conditions
      let dataWords ← pairWords data
      return "update" :: conditionWords ++ [Command.setWord] ++ dataWords
  | delete conditions confirm =>
    if conditions.isEmpty then
      .error .deleteWithoutConditions
    else if conditions.entries.any spellsConfirmation then
      .error .confirmationAsCondition
    else do
      let conditionWords ← pairWords conditions
      let confirmation := if isTrue confirm then [Command.deleteConfirmation] else []
      return "delete" :: conditionWords ++ confirmation
  | search (some keyword) => .ok ["search", Words.quote (valueText keyword)]
  | search none => .error .searchWithoutKeyword
  | searchExact (some column) (some value) => do
    let key ← keyWord (valueText column)
    return ["search_exact", key ++ "=" ++ Words.quote (valueText value)]
  | searchExact _ _ => .error .searchExactWithoutPair
  | error message => .error (.reported (message.getD defaultReport))

/-- The line that carries out the request. -/
def line (request : Request) : Except RequestError String :=
  request.lineWords.map (" ".intercalate ·)

end Request
end TableShell
