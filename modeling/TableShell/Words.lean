import TableShell.Text.Blank

/-!
# Words of a line

A line is cut into words at blanks. Inside a word, single quotes keep everything, double quotes
keep all but four escapes and an escaped line break, and a backslash outside quotes keeps the
character behind it. `quote` writes any text as one word of a line.
-/

namespace TableShell
namespace Words

open Text

/-- Why a line has no words. -/
inductive Error
  /-- The line ends behind a backslash. -/
  | noEscapedCharacter
  /-- A quote that opens at the character of this index is not closed. -/
  | noClosingQuotation (position : Nat)
deriving DecidableEq

/-- The wording of an error. -/
def Error.message : Error → String
  | noEscapedCharacter => "No escaped character"
  | noClosingQuotation position =>
    "No closing quotation for quote at position " ++ toString position

/-- Where the reader of a line stands. -/
inductive Mode
  /-- Outside quotes, with the begun word if there is one. -/
  | outside (word : Option (List Char))
  /-- Inside single quotes that opened at `start`. -/
  | single (start : Nat) (word : List Char)
  /-- Inside double quotes that opened at `start`. -/
  | double (start : Nat) (word : List Char)
deriving DecidableEq

/-- Inside double quotes a backslash escapes these characters. -/
def isEscapable (c : Char) : Bool :=
  c = '"' || c = '\\' || c = '$' || c = '\x60'

/-- The words of the characters from index `position` on, read in a mode. -/
def scan : Mode → (position : Nat) → List Char → Except Error (List (List Char))
  | .outside word, _, [] => .ok word.toList
  | .single start _, _, [] => .error (.noClosingQuotation start)
  | .double start _, _, [] => .error (.noClosingQuotation start)
  | .outside word, position, c :: rest =>
    let begun := word.getD []
    if isBlank c then
      (scan (.outside none) (position + 1) rest).map (word.toList ++ ·)
    -- a quote begins a word too, so that empty quotes are an empty word
    else if c = '\'' then
      scan (.single position begun) (position + 1) rest
    else if c = '"' then
      scan (.double position begun) (position + 1) rest
    else if c = '\\' then
      match rest with
      | [] => .error .noEscapedCharacter
      | escaped :: rest => scan (.outside (some (begun ++ [escaped]))) (position + 2) rest
    else
      scan (.outside (some (begun ++ [c]))) (position + 1) rest
  | .single start word, position, c :: rest =>
    if c = '\'' then
      scan (.outside (some word)) (position + 1) rest
    else
      scan (.single start (word ++ [c])) (position + 1) rest
  | .double start word, position, c :: rest =>
    if c = '"' then
      scan (.outside (some word)) (position + 1) rest
    else if c = '\\' then
      match rest with
      | [] => scan (.double start (word ++ ['\\'])) (position + 1) []
      | next :: more =>
        if isEscapable next then
          scan (.double start (word ++ [next])) (position + 2) more
        else if next = '\n' then
          scan (.double start word) (position + 2) more
        else
          -- a backslash that escapes nothing stands for itself
          scan (.double start (word ++ ['\\'])) (position + 1) (next :: more)
    else
      scan (.double start (word ++ [c])) (position + 1) rest

/-- The words of a line. -/
def read (line : String) : Except Error (List String) :=
  (scan (.outside none) 0 line.toList).map (·.map String.ofList)

/-! ## Writing words -/

/-- These characters need no quotes. The comma does, although a word may hold one bare: a list of
values is cut at commas. -/
def isSafe (c : Char) : Bool :=
  c.isAlphanum || ['@', '%', '+', '=', ':', '.', '/', '-', '_'].contains c

/-- Inside single quotes, a single quote is written by closing them, quoting it doubly, and opening
them again. -/
def quoteChar (c : Char) : List Char :=
  if c = '\'' then ['\'', '"', '\'', '"', '\''] else [c]

/-- The characters written as one word. -/
def quoteChars (cs : List Char) : List Char :=
  if cs ≠ [] ∧ cs.all isSafe then cs else '\'' :: cs.flatMap quoteChar ++ ['\'']

/-- The text written as one word. -/
def quote (word : String) : String :=
  .ofList (quoteChars word.toList)

end Words
end TableShell
