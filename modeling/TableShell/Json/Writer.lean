import TableShell.Json

/-!
# JSON texts of values

A value is written without spaces (`compact`), or with every item on a line of its own, indented by
two spaces a level (`pretty`). Only quotes, backslashes and control characters are escaped.
-/

namespace TableShell
namespace Json

/-- A digit of base sixteen. -/
def hexDigit (n : Nat) : Char :=
  Nat.digitChar n

/-- The character inside a string. -/
def escapeChar (c : Char) : List Char :=
  if c = '"' then ['\\', '"']
  else if c = '\\' then ['\\', '\\']
  else if c = '\n' then ['\\', 'n']
  else if c = '\r' then ['\\', 'r']
  else if c = '\t' then ['\\', 't']
  else if c = '\x08' then ['\\', 'b']
  else if c = '\x0c' then ['\\', 'f']
  else if c.toNat < 0x20 then
    ['\\', 'u', '0', '0', hexDigit (c.toNat / 16), hexDigit (c.toNat % 16)]
  else [c]

/-- The text as a string. -/
def quoted (s : String) : String :=
  .ofList ('"' :: s.toList.flatMap escapeChar ++ ['"'])

/-- The opening and closing of an object. -/
def openBrace : String := "\x7b"

@[inherit_doc openBrace]
def closeBrace : String := "\x7d"

mutual

/-- The value without spaces. -/
def compact : Json → String
  | null => "null"
  | bool true => "true"
  | bool false => "false"
  | integer n => .ofList (Integer.digits n)
  | float x => .ofList x.jsonText
  | string s => quoted s
  | array items => "[" ++ ",".intercalate (compactItems items) ++ "]"
  | object members => openBrace ++ ",".intercalate (compactMembers members) ++ closeBrace

/-- The items without spaces. -/
def compactItems : List Json → List String
  | [] => []
  | item :: rest => compact item :: compactItems rest

/-- The members without spaces. -/
def compactMembers : List (String × Json) → List String
  | [] => []
  | (name, value) :: rest => (quoted name ++ ":" ++ compact value) :: compactMembers rest

end

/-- The start of a line at the given level. -/
def indent (level : Nat) : String :=
  .ofList (List.replicate (2 * level) ' ')

/-- Parts on lines of their own, between an opening and a closing at the given level. -/
def block (level : Nat) (start stop : String) (parts : List String) : String :=
  if parts.isEmpty then
    start ++ stop
  else
    start ++ "\n" ++ ",\n".intercalate (parts.map (indent (level + 1) ++ ·)) ++ "\n" ++
      indent level ++ stop

mutual

/-- The value, inside as many arrays and objects as `level`. -/
def prettyAt (level : Nat) : Json → String
  | array items => block level "[" "]" (prettyItems (level + 1) items)
  | object members => block level openBrace closeBrace (prettyMembers (level + 1) members)
  | null => "null"
  | bool true => "true"
  | bool false => "false"
  | integer n => .ofList (Integer.digits n)
  | float x => .ofList x.jsonText
  | string s => quoted s

/-- The items of an array. -/
def prettyItems (level : Nat) : List Json → List String
  | [] => []
  | item :: rest => prettyAt level item :: prettyItems level rest

/-- The members of an object. -/
def prettyMembers (level : Nat) : List (String × Json) → List String
  | [] => []
  | (name, value) :: rest =>
    (quoted name ++ ": " ++ prettyAt level value) :: prettyMembers level rest

end

/-- The value with every item on a line of its own. -/
def pretty (value : Json) : String :=
  prettyAt 0 value

end Json
end TableShell
