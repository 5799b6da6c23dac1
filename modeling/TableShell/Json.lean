import TableShell.Number.Layout

/-!
# JSON values

Values as they stand in a text: the members of an object keep their order and may repeat a name.
`canonical` gives the value that an object means where order does not matter: names sorted, the
last of equal names kept.
-/

namespace TableShell

/-- A JSON value. -/
inductive Json
  | null
  | bool (value : Bool)
  | integer (value : Int)
  | float (value : Binary64)
  | string (value : String)
  | array (items : List Json)
  | object (members : List (String × Json))
deriving Inhabited

namespace Json

/-- The members in the order of their names, with one more written among them. -/
def insertSorted (name : String) (value : Json) :
    List (String × Json) → List (String × Json)
  | [] => [(name, value)]
  | member :: rest =>
    if name = member.1 then
      (name, value) :: rest
    else if name < member.1 then
      (name, value) :: member :: rest
    else
      member :: insertSorted name value rest

/-- The members in the order of their names, the last of equal names kept. -/
def sortMembers (members : List (String × Json)) : List (String × Json) :=
  members.foldl (fun sorted member => insertSorted member.1 member.2 sorted) []

mutual

/-- The value with the members of every object sorted. -/
def canonical : Json → Json
  | null => null
  | bool b => bool b
  | integer n => integer n
  | float x => float x
  | string s => string s
  | array items => array (canonicalItems items)
  | object members => object (sortMembers (canonicalMembers members))

/-- The items, each with the members of every object sorted. -/
def canonicalItems : List Json → List Json
  | [] => []
  | item :: rest => canonical item :: canonicalItems rest

/-- The members, each with the members of every object in it sorted. -/
def canonicalMembers : List (String × Json) → List (String × Json)
  | [] => []
  | (name, value) :: rest => (name, canonical value) :: canonicalMembers rest

end

end Json
end TableShell
