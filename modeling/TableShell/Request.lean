import TableShell.Json.Reader
import TableShell.Json.Writer
import TableShell.OrderedMap

/-!
# Structured requests

An agent states its wish as a JSON value: an object with a member `operation` that names the
operation, or an array that begins with that name, and the fields that the operation takes. Other
members of the object are ignored. `ofJson?` reads such a value and `toJson` writes it.
-/

namespace TableShell

/-- What an agent asks for. -/
inductive Request
  | list
  | columns
  | add (data : OrderedMap Json)
  | addBatch (columns : List String) (values : List (List Json))
  | update (conditions data : OrderedMap Json)
  | delete (conditions : OrderedMap Json) (confirm : Option Json)
  | search (keyword : Option Json)
  | searchExact (column value : Option Json)
  /-- The agent could not state the wish of its user as an operation. -/
  | error (message : Option String)

namespace Request

/-- The member that names the operation. -/
def operationName : String := "operation"

/-- The fields that the operation of that name takes, in order. -/
def fieldNames? (operation : String) : Option (List String) :=
  if operation = "list" then some []
  else if operation = "columns" then some []
  else if operation = "add" then some ["data"]
  else if operation = "add_batch" then some ["columns", "values"]
  else if operation = "update" then some ["conditions", "data"]
  else if operation = "delete" then some ["conditions", "confirm"]
  else if operation = "search" then some ["keyword"]
  else if operation = "search_exact" then some ["column", "value"]
  else if operation = "error" then some ["message"]
  else none

/-! ## Fields -/

/-- A field of pairs; without the field there are none. -/
def readPairs? : Option Json → Option (OrderedMap Json)
  | none => some .empty
  | some (.object members) =>
    some (.ofList (members.map fun member => (member.1, member.2.canonical)))
  | some _ => none

/-- A text. -/
def readText? : Json → Option String
  | .string s => some s
  | _ => none

/-- The items of an array. -/
def readItems? : Json → Option (List Json)
  | .array items => some items
  | _ => none

/-- A field of texts; without the field there are none. -/
def readTexts? : Option Json → Option (List String)
  | none => some []
  | some json => (readItems? json).bind fun items => items.mapM readText?

/-- A field of rows of values; without the field there are none. -/
def readRows? : Option Json → Option (List (List Json))
  | none => some []
  | some json => (readItems? json).bind fun items =>
      items.mapM fun item => (readItems? item).map fun row => row.map Json.canonical

/-- A field with any value; null is no value. -/
def readValue : Option Json → Option Json
  | none => none
  | some .null => none
  | some json => some json.canonical

/-- A field with a text or null. -/
def readMessage? : Option Json → Option (Option String)
  | none => some none
  | some .null => some none
  | some json => (readText? json).map some

/-- The request of an operation and its fields. -/
def ofFields? (operation : String) (fields : List (Option Json)) : Option Request :=
  match fields with
  | [] => if operation = "list" then some list else some columns
  | [field] =>
    if operation = "add" then
      (readPairs? field).map add
    else if operation = "search" then
      some (search (readValue field))
    else
      (readMessage? field).map error
  | [first, second] =>
    if operation = "add_batch" then do
      return addBatch (← readTexts? first) (← readRows? second)
    else if operation = "update" then do
      return update (← readPairs? first) (← readPairs? second)
    else if operation = "delete" then do
      return delete (← readPairs? first) (readValue second)
    else
      some (searchExact (readValue first) (readValue second))
  | _ => none

/-- The value of the only member of that name, or nothing if there is none. -/
def onlyMember? (members : List (String × Json)) (name : String) : Option (Option Json) :=
  match members.filter fun member => member.1 = name with
  | [] => some none
  | [member] => some (some member.2)
  | _ => none

/-- The request that a value states. -/
def ofJson? : Json → Option Request
  | .object members => do
    let operation ← (← onlyMember? members operationName) >>= readText?
    let names ← fieldNames? operation
    ofFields? operation (← names.mapM (onlyMember? members))
  | .array (.string operation :: items) => do
    let names ← fieldNames? operation
    if items.length ≤ names.length then
      ofFields? operation (items.map some ++ List.replicate (names.length - items.length) none)
    else
      none
  | _ => none

/-- The request that a JSON text states. -/
def read? (text : String) : Option Request :=
  (Json.read? text).bind ofJson?

/-! ## Writing -/

/-- An object of pairs. -/
def pairsJson (pairs : OrderedMap Json) : Json :=
  .object pairs.entries

/-- The name of the operation and the fields with their values. -/
def fields : Request → String × List (String × Json)
  | list => ("list", [])
  | columns => ("columns", [])
  | add data => ("add", [("data", pairsJson data)])
  | addBatch names rows =>
    ("add_batch", [("columns", .array (names.map .string)), ("values", .array (rows.map .array))])
  | update conditions data =>
    ("update", [("conditions", pairsJson conditions), ("data", pairsJson data)])
  | delete conditions confirm =>
    ("delete", ("conditions", pairsJson conditions) :: (confirm.map ("confirm", ·)).toList)
  | search keyword => ("search", [("keyword", keyword.getD .null)])
  | searchExact column value =>
    ("search_exact", [("column", column.getD .null), ("value", value.getD .null)])
  | error message => ("error", [("message", (message.map .string).getD .null)])

/-- The value that states the request. -/
def toJson (request : Request) : Json :=
  .object ((operationName, .string request.fields.1) :: request.fields.2)

end Request
end TableShell
