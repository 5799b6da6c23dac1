import TableShell.Number.Decimal
import TableShell.Terminal.Style
import TableShell.Text.Blank
import TableShell.Text.LetterCase

/-!
# Highlighting of lines

The line in the input box is coloured while it is typed: the word that names the command, column
names, quoted texts, signs and numbers. Colouring only cuts the line into runs.
-/

namespace TableShell
namespace Terminal
namespace Highlight

open Text

/-- The words that name a command. -/
def commandWords : List String :=
  ["help", "clear", "list", "columns", "add", "add_batch", "update", "delete", "delete_all",
   "search", "search_exact"]

/-- Where the colouring of a line stands. -/
structure State where
  spans : List Span
  /-- The characters of the run at hand. -/
  run : List Char
  /-- The quote in which the run stands. -/
  quote : Option Char
  /-- No run of plain characters has ended yet. -/
  atStart : Bool
  /-- A sign stands before, with no blank in between. -/
  afterSign : Bool
deriving DecidableEq

/-- Nothing is read. -/
def State.initial : State :=
  ⟨[], [], none, true, false⟩

/-- The style of a run of plain characters. -/
def plainStyle (atStart afterSign : Bool) (run : List Char) : Style :=
  if atStart then
    if String.ofList (lowerChars run) ∈ commandWords then .boldColour .blue else .colour .red
  else if !afterSign then
    .colour .yellow
  else if run.all fun c => Decimal.isDigit c || c = '.' then
    .colour .cyan
  else
    .plain

/-- The run of plain characters ends, if there is one. -/
def State.flush (s : State) : State :=
  if s.run = [] then
    s
  else
    { s with
      spans := s.spans ++ [⟨.ofList s.run, plainStyle s.atStart s.afterSign s.run⟩]
      run := []
      atStart := false }

/-- A character that is a run of its own. -/
def State.single (s : State) (c : Char) (style : Style) : State :=
  { s with spans := s.spans ++ [⟨.ofList [c], style⟩] }

/-- The style of quoted text. -/
def quotedStyle : Style := .colour .green

/-- The character is a sign between a name and a value, or in a value. -/
def isSign (c : Char) : Bool :=
  ['=', '<', '>', '!', '*', ','].contains c

/-- One character. -/
def State.step (s : State) (c : Char) : State :=
  match s.quote with
  | some q =>
    let run := s.run ++ [c]
    if c = q then
      { s with spans := s.spans ++ [⟨.ofList run, quotedStyle⟩], run := [], quote := none }
    else
      { s with run }
  | none =>
    if c = '\'' ∨ c = '"' then
      -- the quote belongs to the run that it opens
      { s.flush with run := [c], quote := some c }
    else if isBlank c then
      ({ s.flush with afterSign := false } : State).single c .plain
    else if isSign c then
      ({ s.flush with afterSign := true } : State).single c (.colour .magenta)
    else
      { s with run := s.run ++ [c] }

/-- The runs at the end of the line. -/
def State.finish (s : State) : List Span :=
  match s.quote with
  | some _ => s.spans ++ [⟨.ofList s.run, quotedStyle⟩]
  | none => s.flush.spans

/-- The runs of the characters. -/
def spansOf (cs : List Char) : List Span :=
  (cs.foldl State.step .initial).finish

end Highlight

/-- The line in coloured runs. -/
def highlight (line : String) : List Span :=
  Highlight.spansOf line.toList

end Terminal
end TableShell
