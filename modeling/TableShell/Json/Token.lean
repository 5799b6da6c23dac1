import TableShell.Json.Number

/-!
# Tokens of JSON

A JSON text is cut into tokens by a machine that takes one character at a time: `step` gives the
tokens that a character completes and where the machine stands after it. A string is complete at
its closing quote, a number or a word at the first character that cannot continue it.
-/

namespace TableShell
namespace Json

/-- A token of a JSON text. -/
inductive Token
  | beginArray
  | endArray
  | beginObject
  | endObject
  | colon
  | comma
  | string (value : String)
  /-- A number, a truth value or null. -/
  | atom (value : Json)

/-- Where the machine stands; the characters taken so far are in reverse. -/
inductive TokenMode
  | between
  | number (taken : List Char)
  | word (taken : List Char)
  | string (taken : List Char)
  /-- Behind a backslash. -/
  | escape (taken : List Char)
  /-- Inside the four digits of a code, which is the second half of a pair if `high` is given. -/
  | code (taken : List Char) (high : Option Nat) (digits : List Char)
  /-- Behind the first half of a pair, where a backslash must come. -/
  | pair (taken : List Char) (high : Nat)
  /-- Behind that backslash, where the second code must come. -/
  | pairEscape (taken : List Char) (high : Nat)

/-- The blanks between tokens. -/
def isSpace (c : Char) : Bool :=
  c = ' ' || c = '\t' || c = '\n' || c = '\r'

/-- The character can begin a number. -/
def startsNumber (c : Char) : Bool :=
  c = '-' || Decimal.isDigit c

/-- The character can continue a number. -/
def continuesNumber (c : Char) : Bool :=
  Decimal.isDigit c || c = '.' || c = 'e' || c = 'E' || c = '+' || c = '-'

/-- The value of a digit of base sixteen. -/
def hexValue? (c : Char) : Option Nat :=
  if Decimal.isDigit c then some (Decimal.digitValue c)
  else if 'a' ≤ c ∧ c ≤ 'f' then some (c.toNat - 'a'.toNat + 10)
  else if 'A' ≤ c ∧ c ≤ 'F' then some (c.toNat - 'A'.toNat + 10)
  else none

/-- The character of an escape with one letter. -/
def simpleEscape? (c : Char) : Option Char :=
  if c = '"' ∨ c = '\\' ∨ c = '/' then some c
  else if c = 'b' then some '\x08'
  else if c = 'f' then some '\x0c'
  else if c = 'n' then some '\n'
  else if c = 'r' then some '\r'
  else if c = 't' then some '\t'
  else none

/-- The token of a word. -/
def wordToken? (taken : List Char) : Option Token :=
  let word := String.ofList taken.reverse
  if word = "null" then some (.atom null)
  else if word = "true" then some (.atom (bool true))
  else if word = "false" then some (.atom (bool false))
  else none

/-- The token of a number. -/
def numberToken? (taken : List Char) : Option Token :=
  (readNumber? taken.reverse).map .atom

/-- A character between tokens. -/
def stepBetween (c : Char) : Option (List Token × TokenMode) :=
  if isSpace c then some ([], .between)
  else if c = '[' then some ([.beginArray], .between)
  else if c = ']' then some ([.endArray], .between)
  else if c = '\x7b' then some ([.beginObject], .between)
  else if c = '\x7d' then some ([.endObject], .between)
  else if c = ':' then some ([.colon], .between)
  else if c = ',' then some ([.comma], .between)
  else if c = '"' then some ([], .string [])
  else if startsNumber c then some ([], .number [c])
  else if c.isAlpha then some ([], .word [c])
  else none

/-- The four digits of a code are complete. The first half of a pair must be followed by the second,
and the second does not stand alone. -/
def endCode (taken : List Char) (high : Option Nat) (code : Nat) : Option TokenMode :=
  match high with
  | some high =>
    if 0xDC00 ≤ code ∧ code ≤ 0xDFFF then
      let whole := 0x10000 + (high - 0xD800) * 0x400 + (code - 0xDC00)
      some (.string (Char.ofNat whole :: taken))
    else
      none
  | none =>
    if 0xD800 ≤ code ∧ code ≤ 0xDBFF then
      some (.pair taken code)
    else if 0xDC00 ≤ code ∧ code ≤ 0xDFFF then
      none
    else
      some (.string (Char.ofNat code :: taken))

/-- The value of four digits of base sixteen, in reverse. -/
def codeOf? (digits : List Char) : Option Nat :=
  digits.reverse.foldlM (fun n c => (hexValue? c).map (16 * n + ·)) 0

/-- One character. -/
def step : TokenMode → Char → Option (List Token × TokenMode)
  | .between, c => stepBetween c
  | .number taken, c =>
    if continuesNumber c then
      some ([], .number (c :: taken))
    else do
      let token ← numberToken? taken
      let (tokens, mode) ← stepBetween c
      return (token :: tokens, mode)
  | .word taken, c =>
    if c.isAlpha then
      some ([], .word (c :: taken))
    else do
      let token ← wordToken? taken
      let (tokens, mode) ← stepBetween c
      return (token :: tokens, mode)
  | .string taken, c =>
    if c = '"' then some ([.string (.ofList taken.reverse)], .between)
    else if c = '\\' then some ([], .escape taken)
    else if c.toNat < 0x20 then none
    else some ([], .string (c :: taken))
  | .escape taken, c =>
    if c = 'u' then some ([], .code taken none [])
    else (simpleEscape? c).map fun escaped => ([], .string (escaped :: taken))
  | .code taken high digits, c =>
    if digits.length < 3 then
      (hexValue? c).map fun _ => ([], .code taken high (c :: digits))
    else do
      -- the fourth digit completes the code
      let code ← codeOf? (c :: digits)
      let mode ← endCode taken high code
      return ([], mode)
  | .pair taken high, c => if c = '\\' then some ([], .pairEscape taken high) else none
  | .pairEscape taken high, c => if c = 'u' then some ([], .code taken (some high) []) else none

/-- The tokens that the end of the text completes. -/
def finish : TokenMode → Option (List Token)
  | .between => some []
  | .number taken => (numberToken? taken).map ([·])
  | .word taken => (wordToken? taken).map ([·])
  | _ => none

/-- The tokens of the characters, from a mode on. -/
def tokensFrom : TokenMode → List Char → Option (List Token)
  | mode, [] => finish mode
  | mode, c :: rest => do
    let (tokens, mode) ← step mode c
    let more ← tokensFrom mode rest
    return tokens ++ more

/-- The tokens of a text. -/
def tokens (cs : List Char) : Option (List Token) :=
  tokensFrom .between cs

end Json
end TableShell
