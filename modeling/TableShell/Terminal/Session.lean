import TableShell.Report.Grid
import TableShell.Shell
import TableShell.Terminal.History
import TableShell.Terminal.InputLine
import TableShell.Terminal.Transcript

/-!
# Sessions at the terminal

The state of the interactive terminal: the input line and its history, the transcript, and the table
on show with its scrolling. Every operation is a pure step; the store is part of the state, and
`clock` is the time of day that new lines of the transcript bear.
-/

namespace TableShell
namespace Terminal

/-- What keys mean. -/
inductive Mode
  | normal
  | insert
  | command
deriving DecidableEq, Inhabited

/-- The part of the screen to which movements apply. -/
inductive Focus
  | input
  | results
deriving DecidableEq, Inhabited

/-- The state of the terminal. -/
structure Session where
  store : Store
  clock : String
  input : InputLine
  mode : Mode
  focus : Focus
  quit : Bool
  /-- The command that is typed at the foot of the screen. -/
  buffer : String
  transcript : Transcript
  /-- The table on show. -/
  result : Option Table
  title : String
  /-- The first row on show. -/
  scroll : Nat
  /-- The first column on show. -/
  sideScroll : Nat
  history : History
  /-- The widths of the columns of the table on show. -/
  widths : List Nat
deriving DecidableEq

namespace Session

/-! ## Showing tables and reports -/

/-- A column is at least so wide. -/
def minWidth : Nat := 4

/-- The widths of the columns of a table: names and cells fit. -/
def tableWidths (t : Table) : List Nat :=
  (Grid.columnWidths t.columns t.rows).map (max minWidth)

/-- A number of rows in a title. -/
def rowCount (t : Table) : String :=
  "(" ++ toString t.rows.length ++ " rows)"

/-- The table is on show, from its first row and column on. -/
def showTable (s : Session) (title : String) (t : Table) : Session :=
  { s with
    widths := tableWidths t
    result := some t
    title
    scroll := 0
    sideScroll := 0 }

/-- New lines in the transcript. -/
def tell (s : Session) (kind : LineKind) (text : String) : Session :=
  { s with transcript := s.transcript.push s.clock kind text }

/-- The stored table is on show. -/
def reload (s : Session) : Session :=
  match s.store.load with
  | .ok t => s.showTable ("Table " ++ rowCount t) t
  | .error e =>
    { s.tell (.outcome .error) e.message with result := none, title := "Table unavailable" }

/-- The transcript is emptied. -/
def clearTranscript (s : Session) : Session :=
  { s with transcript := [] }

/-- An answer is told, and its table is on show; the stored one if it has none. -/
def showAnswer (s : Session) (answer : Answer) : Session :=
  let s := if answer.command = some Command.clear.name then s.clearTranscript else s
  let s := s.tell (.outcome answer.report.severity) answer.report.message
  match answer.report.table with
  | some t => s.showTable ("Results " ++ rowCount t) t
  | none => s.reload

/-- A terminal on a store, with the stored table on show. -/
def new (store : Store) (clock : String) : Session :=
  reload
    { store, clock, input := .empty, mode := .normal, focus := .input, quit := false,
      buffer := "", transcript := [], result := none, title := "", scroll := 0, sideScroll := 0,
      history := .empty, widths := [] }

/-! ## Running -/

/-- The input line is edited. -/
def edit (s : Session) (f : InputLine → InputLine) : Session :=
  { s with input := f s.input }

/-- The line in the input box is run, unless it is blank. -/
def submit (s : Session) : Session :=
  let line := Text.trim s.input.text
  if line = "" then
    s
  else
    let s := { s with history := s.history.push line, input := .empty }
    -- the line is told before what came of it
    let s := s.tell .echo ("> " ++ line)
    let (answer, store) := s.store.execute line
    { s with store }.showAnswer answer

/-- The reply of an agent is run. -/
def submitReply (s : Session) (reply : String) : Session :=
  let (answer, store) := s.store.executeReply reply
  let s := match answer.line with
    | some line => s.tell .echo ("agent> " ++ line)
    | none => s
  { s with store }.showAnswer answer.answer

/-! ## History -/

/-- The input line is the recalled line, with the cursor at its end; empty if none is recalled. -/
def showRecalled (s : Session) (history : History) : Session :=
  let input := match history.recalled? with
    | some line => .ofString line
    | none => .empty
  { s with history, input }

/-- The line before is recalled. -/
def historyUp (s : Session) : Session :=
  match s.history.up with
  | some history => s.showRecalled history
  | none => s

/-- The line behind is recalled. -/
def historyDown (s : Session) : Session :=
  match s.history.down with
  | some history => s.showRecalled history
  | none => s

/-! ## Scrolling -/

/-- The number of the last row on show. -/
def lastRow (t : Table) : Nat :=
  t.rows.length - 1

/-- A page has so many rows. -/
def pageRows : Nat := 10

/-- One row up. -/
def scrollUp (s : Session) : Session :=
  { s with scroll := s.scroll - 1 }

/-- One row down, to the last row at most. -/
def scrollDown (s : Session) : Session :=
  match s.result with
  | some t => if s.scroll < lastRow t then { s with scroll := s.scroll + 1 } else s
  | none => s

/-- One column to the left. -/
def scrollLeft (s : Session) : Session :=
  { s with sideScroll := s.sideScroll - 1 }

/-- One column to the right, to the last column at most. -/
def scrollRight (s : Session) : Session :=
  if s.sideScroll + 1 < s.widths.length then { s with sideScroll := s.sideScroll + 1 } else s

/-- One page up. -/
def pageUp (s : Session) : Session :=
  { s with scroll := s.scroll - pageRows }

/-- One page down, to the last row at most. -/
def pageDown (s : Session) : Session :=
  match s.result with
  | some t => { s with scroll := min (s.scroll + pageRows) (lastRow t) }
  | none => s

/-- To the first row. -/
def scrollToTop (s : Session) : Session :=
  { s with scroll := 0 }

/-- To the last row. -/
def scrollToBottom (s : Session) : Session :=
  match s.result with
  | some t => { s with scroll := lastRow t }
  | none => s

/-! ## Modes -/

/-- Keys are text for the input line. -/
def enterInsert (s : Session) : Session :=
  { s with mode := .insert, focus := .input }

/-- Keys are movements. -/
def enterNormal (s : Session) : Session :=
  { s with mode := .normal }

/-- Keys are text for the command at the foot of the screen. -/
def enterCommand (s : Session) : Session :=
  { s with mode := .command, buffer := "" }

/-- Movements apply to the other part of the screen. -/
def toggleFocus (s : Session) : Session :=
  { s with focus := if s.focus = .input then .results else .input }

/-- What comes before the reply of an agent in a command. -/
def replyStart : String := "agent "

/-- What the command at the foot of the screen does. -/
def runBuffer (s : Session) : Session :=
  let command := Text.trim s.buffer
  if command = "q" ∨ command = "quit" then
    { s with quit := true }
  else if command = "e" ∨ command = "exec" ∨ command = "execute" then
    s.submit
  else if command = "r" ∨ command = "reload" then
    s.reload
  else if command = "clear" then
    { s.clearTranscript with input := .empty }
  else
    match Text.dropPrefix? replyStart.toList command.toList with
    | some reply => s.submitReply (.ofList reply)
    | none => s

/-- The command at the foot of the screen is run, and keys are movements again. -/
def executeBuffer (s : Session) : Session :=
  { s.runBuffer with buffer := "", mode := .normal }

end Session
end Terminal
end TableShell
