import TableShell.Json.Token

/-!
# JSON values from texts

The tokens of a text are put together with a stack of the arrays and objects that are still open.
A text nested too deep is refused.
-/

namespace TableShell
namespace Json

/-- An array or object that is still open; what it holds is in reverse. -/
inductive Frame
  | array (items : List Json)
  | object (members : List (String × Json))
  /-- An object that waits for the value of the named member. -/
  | member (members : List (String × Json)) (name : String)

/-- What may come next. -/
inductive ReadState
  | value (stack : List Frame)
  /-- A value, or the end of an array that holds nothing yet. -/
  | firstItem (stack : List Frame)
  | name (members : List (String × Json)) (stack : List Frame)
  /-- A name, or the end of an object that holds nothing yet. -/
  | firstName (stack : List Frame)
  | colon (members : List (String × Json)) (name : String) (stack : List Frame)
  /-- A comma or the end of the innermost frame. -/
  | next (stack : List Frame)
  | done (value : Json)

/-- At most so many arrays and objects are open at once. -/
def maxDepth : Nat := 127

/-- A value is complete. -/
def supply (value : Json) : List Frame → ReadState
  | [] => .done value
  | .array items :: stack => .next (.array (value :: items) :: stack)
  | .object members :: stack => .next (.object members :: stack)
  | .member members name :: stack => .next (.object ((name, value) :: members) :: stack)

/-- A token that begins a value. -/
def beginValue (stack : List Frame) : Token → Option ReadState
  | .atom value => some (supply value stack)
  | .string s => some (supply (string s) stack)
  | .beginArray => if stack.length < maxDepth then some (.firstItem stack) else none
  | .beginObject => if stack.length < maxDepth then some (.firstName stack) else none
  | _ => none

/-- One token. -/
def readToken : ReadState → Token → Option ReadState
  | .value stack, token => beginValue stack token
  | .firstItem stack, .endArray => some (supply (array []) stack)
  | .firstItem stack, token => beginValue (.array [] :: stack) token
  | .name members stack, .string name => some (.colon members name stack)
  | .firstName stack, .endObject => some (supply (object []) stack)
  | .firstName stack, .string name => some (.colon [] name stack)
  | .colon members name stack, .colon => some (.value (.member members name :: stack))
  -- behind a comma there must be an item: the array does not end there
  | .next (.array items :: stack), .comma => some (.value (.array items :: stack))
  | .next (.array items :: stack), .endArray => some (supply (array items.reverse) stack)
  | .next (.object members :: stack), .comma => some (.name members stack)
  | .next (.object members :: stack), .endObject => some (supply (object members.reverse) stack)
  | _, _ => none

/-- The value of the tokens. -/
def ofTokens? (tokens : List Token) : Option Json :=
  match tokens.foldlM readToken (.value []) with
  | some (.done value) => some value
  | _ => none

/-- The value that the text holds. -/
def read? (s : String) : Option Json :=
  (tokens s.toList).bind ofTokens?

end Json
end TableShell
