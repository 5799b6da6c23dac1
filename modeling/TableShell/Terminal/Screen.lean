import TableShell.Terminal.Highlight
import TableShell.Terminal.Key
import TableShell.Terminal.Picture

/-!
# The screen

What the terminal shows of a session: a heading, the input box, the transcript beside the table on
show, and a line that tells the mode. Places of the screen are counted in 16 bits.

The picture is that of a screen with room for all parts: of `leastHeight` rows or more, and so wide
that the columns on show have their places. On a lower one the rows that the transcript and the
table ask for come first, and the parts around them are squeezed, the input box with its cursor
among them. On a narrower one the columns are. Such pictures are not described here.
-/

namespace TableShell
namespace Terminal

/-- A picture of the whole screen, and the place of the cursor if it is shown. -/
structure Screen where
  rows : Picture
  cursor : Option (UInt16 × UInt16)
deriving DecidableEq

namespace Screen

/-! ## Places -/

/-- The number of places that a column of the table takes: its width and two blanks. -/
def columnPlaces (width : Nat) : UInt16 :=
  width.toUInt16 + 2

/-- The place behind so many characters from `start` on. -/
def placeBehind (start : UInt16) (chars : Nat) : UInt16 :=
  start + chars.toUInt16

/-- The width of the left part of the screen: two fifths, to the nearest. -/
def leftWidth (width : Nat) : Nat :=
  (4 * width + 5) / 10

/-- The rows of the heading, the input box and the status line. -/
def otherRows : Nat := 5

/-- The rows that the transcript and the table beside it ask for at least. -/
def bodyRows : Nat := 10

/-- From this height on, each part of the screen has the rows that it asks for. -/
def leastHeight : Nat := otherRows + bodyRows

/-! ## Parts -/

/-- The heading of the screen. -/
def heading (width : Nat) : List Glyph :=
  Picture.lineOf width ⟨none, some .black, false⟩
    [.raw "  ", ⟨"▤", .colour .yellow⟩, ⟨" tabletalk", .boldColour .cyan⟩,
     ⟨" | ", .colour .darkGray⟩, ⟨"Table Terminal", .colour .darkGray⟩]

/-- The border of a part of the screen, by whether it has the focus. -/
def borderStyle (focused : Bool) : Style :=
  .colour (if focused then .cyan else .darkGray)

/-- The box with the input line. -/
def inputBox (width : Nat) (s : Session) : Picture :=
  Picture.box (width - 2) (borderStyle (s.focus = .input))
    " Command (i: insert, Enter: run, help: commands) "
    [Picture.lineOf (width - 2) .plain (highlight s.input.text)]

/-- The colour of a message. -/
def severityColour : Severity → Colour
  | .info => .white
  | .success => .green
  | .warning => .yellow
  | .error => .red

/-- The style of a line of the transcript. -/
def lineStyle : LineKind → Style
  | .echo => .colour .cyan
  | .outcome severity => .colour (severityColour severity)

/-- A line of the transcript behind its time. -/
def transcriptSpans (line : TranscriptLine) : List Span :=
  [⟨"[" ++ line.time ++ "] ", .colour .darkGray⟩, ⟨line.text, lineStyle line.kind⟩]

/-- What an empty transcript shows. -/
def hint : List String :=
  ["Type", "a", "command", "and", "press", "Enter.", "Try", "'help'."]

/-- A text on a dark ground. -/
def note (width height : Nat) (lines : List String) : Picture :=
  Picture.heightOf width height (.colour .darkGray)
    (lines.map fun line => Picture.lineOf width (.colour .darkGray) [.raw line])

/-- The last lines of the transcript. -/
def transcriptRows (width height : Nat) (transcript : Transcript) : Picture :=
  if transcript.isEmpty then
    note width height (Picture.wrapWords width hint)
  else
    let shown := transcript.drop (transcript.length - height)
    Picture.heightOf width height .plain
      (shown.map fun line => Picture.lineOf width .plain (transcriptSpans line))

/-- The text, cut to a number of characters. -/
def shorten (length : Nat) (s : String) : String :=
  let cs := s.toList
  if cs.length ≤ length then s
  else if length > 3 then .ofList (cs.take (length - 3) ++ ['.', '.', '.'])
  else .ofList (cs.take length)

/-- The first line of a text, which is all that a place of one row shows. -/
def firstLine (s : String) : String :=
  (textLines s).head?.getD ""

/-- What the cells of a column on show have: places, and the number of characters up to which they
are not shortened. -/
structure Slot where
  places : Nat
  characters : Nat

/-- The number of characters of a cell that stands in no column. -/
def looseCharacters : Nat := 10

/-- The slots of the columns on show. Cells without any column share the width evenly. -/
def slotsOf (width : Nat) (widths : List Nat) (rows : List Row) : List Slot :=
  let cells := (rows.map List.length).foldl max 0
  if widths.isEmpty then
    List.replicate cells ⟨width / cells, looseCharacters⟩
  else
    widths.map fun characters => ⟨(columnPlaces characters).toNat, characters⟩

/-- One row of the table on show: labels in their slots, one blank between them. -/
def labelRow (width : Nat) (slots : List Slot) (labels : List (String × Style)) : List Glyph :=
  let cells := (slots.zip labels).map fun (slot, text, style) =>
    Picture.labelOf slot.places style (firstLine (shorten slot.characters text))
  Picture.fill width .plain ((List.intercalate [.blank .plain] cells).take width)

/-- The style of a cell. -/
def cellStyle (cell : Cell) : Style :=
  if cell.isMissing then .colour .darkGray else .plain

/-- The rows of the table on show. -/
def tableRows (width height : Nat) (s : Session) (t : Table) : Picture :=
  let names := (t.columns.drop s.sideScroll).map fun column =>
    (column.name, Style.boldColour .yellow)
  -- one row for the names, and one that stays free
  let shown := ((t.rows.drop s.scroll).take (height - 2)).map (·.drop s.sideScroll)
  let slots := slotsOf width (s.widths.drop s.sideScroll) shown
  let cells (row : Row) := row.map fun cell => (cell.display, cellStyle cell)
  Picture.heightOf width height .plain
    (labelRow width slots names :: shown.map fun row => labelRow width slots (cells row))

/-- What the part of the screen for tables shows. -/
def resultRows (width height : Nat) (s : Session) : Picture :=
  match s.result with
  | none => note width height ["No table loaded"]
  | some t =>
    if t.rows.isEmpty then
      note width height ["No data. Add rows with 'add' or 'add_batch'."]
    else
      tableRows width height s t

/-- The transcript beside the table on show. -/
def body (width height : Nat) (s : Session) : Picture :=
  let left := leftWidth width - 2
  let right := width - leftWidth width - 2
  Picture.beside
    (Picture.box left (borderStyle false) " Transcript "
      (transcriptRows left (height - 2) s.transcript))
    (Picture.box right (borderStyle (s.focus = .results)) (" " ++ s.title ++ " ")
      (resultRows right (height - 2) s))

/-- The name of a mode. -/
def modeName : Mode → String
  | .normal => "NORMAL"
  | .insert => "INSERT"
  | .command => "COMMAND"

/-- The colour of a mode. -/
def modeColour : Mode → Colour
  | .normal => .blue
  | .insert => .green
  | .command => .yellow

/-- The name of a part of the screen. -/
def focusName : Focus → String
  | .input => "Command"
  | .results => "Results"

/-- The keys of a mode. -/
def modeHelp : Mode → String
  | .normal => "i:insert  j/k:history/scroll  Tab:focus  Enter:run  ::command  q:quit"
  | .insert => "Esc:normal  Enter:run  Up/Down:history  Ctrl+L:clear transcript"
  | .command => "e:run  r:reload  agent <json>:structured  clear  q:quit  Esc:cancel"

/-- The line that tells the mode. -/
def statusLine (width : Nat) (s : Session) : List Glyph :=
  Picture.lineOf width .plain
    [⟨" " ++ modeName s.mode ++ " ", .on .black (modeColour s.mode)⟩, .raw " ",
     ⟨"[" ++ focusName s.focus ++ "]", .colour .darkGray⟩, .raw " ",
     ⟨modeHelp s.mode, .colour .darkGray⟩]

/-- The line in which a command is typed. -/
def commandLine (width : Nat) (s : Session) : List Glyph :=
  Picture.lineOf width (.colour .white) [.raw (firstLine (":" ++ s.buffer))]

/-- The foot of the screen. -/
def foot (width : Nat) (s : Session) : List Glyph :=
  if s.mode = .command then commandLine width s else statusLine width s

/-- The place of the cursor. In the input box it is the row below the upper border, which is the
third one of the screen from `leastHeight` on. -/
def cursorOf (height : Nat) (s : Session) : Option (UInt16 × UInt16) :=
  if s.mode = .command then
    -- the colon takes the first place
    some (placeBehind 1 s.buffer.toList.length, (height - 1).toUInt16)
  else if s.mode = .insert ∧ s.focus = .input then
    -- the border of the box takes the first place
    some (placeBehind 1 s.input.before.length, 2)
  else
    none

/-- What a screen of the given size shows of the session, from `leastHeight` on. -/
def draw (width height : Nat) (s : Session) : Screen where
  rows :=
    (heading width :: inputBox width s ++ body width (height - otherRows) s ++
      [foot width s]).map Picture.cover
  cursor := cursorOf height s

/-- The rows of a screen as plain text, without the blanks at their ends. -/
def lines (screen : Screen) : List String :=
  screen.rows.map fun row => .ofList (Text.trimRight (row.flatMap fun glyph => glyph.symbol.toList))

end Screen
end Terminal
end TableShell
