import TableShell.Terminal.Session

/-!
# Keys

What each key does, mode by mode.
-/

namespace TableShell
namespace Terminal

/-- A key, or a character with or without the control key. -/
inductive Key
  | char (c : Char) (control : Bool)
  | enter
  | escape
  | tab
  | backspace
  | delete
  | left
  | right
  | up
  | down
  | lineStart
  | lineEnd
  /-- A key without a meaning. -/
  | other
deriving DecidableEq

namespace Session

/-- A movement on the input line, or on the results if they have the focus. -/
def onFocus (s : Session) (input results : Session → Session) : Session :=
  if s.focus = .input then input s else results s

/-- A character in normal mode. -/
def normalChar (s : Session) (c : Char) (control : Bool) : Session :=
  let stay : Session → Session := id
  match c with
  | 'i' => s.enterInsert
  | 'I' => (s.edit .start).enterInsert
  | 'a' => (s.edit .right).enterInsert
  | 'A' => (s.edit .stop).enterInsert
  | ':' => s.enterCommand
  | 'q' => { s with quit := true }
  | 'h' => s.onFocus (·.edit .left) scrollLeft
  | 'l' => s.onFocus (·.edit .right) scrollRight
  | 'j' => s.onFocus historyDown scrollDown
  | 'k' => s.onFocus historyUp scrollUp
  | '0' => s.onFocus (·.edit .start) stay
  | '$' => s.onFocus (·.edit .stop) stay
  | 'w' => s.onFocus (·.edit .wordForward) stay
  | 'b' => s.onFocus (·.edit .wordBackward) stay
  | 'g' => s.onFocus stay scrollToTop
  | 'G' => s.onFocus stay scrollToBottom
  | 'd' => if control then s.pageDown else s
  | 'u' => if control then s.pageUp else s
  | 'x' => s.onFocus (·.edit .deleteForward) stay
  | 'D' => s.onFocus (·.edit .deleteToEnd) stay
  | _ => s

/-- A key in normal mode. -/
def normalKey (s : Session) : Key → Session
  | .char c control => s.normalChar c control
  | .tab => s.toggleFocus
  | .left => s.onFocus (·.edit .left) scrollLeft
  | .right => s.onFocus (·.edit .right) scrollRight
  | .down => s.onFocus historyDown scrollDown
  | .up => s.onFocus historyUp scrollUp
  | .enter => s.submit
  | _ => s

/-- A character with the control key in insert mode; one without a meaning is written. -/
def insertControl (s : Session) (c : Char) : Session :=
  match c with
  | 'w' => s.edit .deleteWordBackward
  | 'u' => s.edit .deleteToStart
  | 'k' => s.edit .deleteToEnd
  | 'a' => s.edit .start
  | 'e' => s.edit .stop
  | 'l' => s.clearTranscript
  | _ => s.edit (·.insert c)

/-- A key in insert mode. -/
def insertKey (s : Session) : Key → Session
  | .char c true => s.insertControl c
  | .char c false => s.edit (·.insert c)
  | .escape => s.enterNormal
  | .enter => s.submit
  | .backspace => s.edit .backspace
  | .delete => s.edit .deleteForward
  | .left => s.edit .left
  | .right => s.edit .right
  | .lineStart => s.edit .start
  | .lineEnd => s.edit .stop
  | .up => s.historyUp
  | .down => s.historyDown
  | .tab | .other => s

/-- A key while a command is typed at the foot of the screen. -/
def commandKey (s : Session) : Key → Session
  | .char c _ => { s with buffer := s.buffer.push c }
  | .escape => { s with buffer := "" }.enterNormal
  | .enter => s.executeBuffer
  | .backspace =>
    let s := { s with buffer := .ofList s.buffer.toList.dropLast }
    if s.buffer = "" then s.enterNormal else s
  | _ => s

/-- A key. Control with `c` leaves insert mode, and the terminal in any other mode. -/
def press (s : Session) (key : Key) : Session :=
  if key = .char 'c' true then
    if s.mode = .insert then s.enterNormal else { s with quit := true }
  else
    match s.mode with
    | .normal => s.normalKey key
    | .insert => s.insertKey key
    | .command => s.commandKey key

/-- The characters of a text as keys, one by one. -/
def typeText (s : Session) (text : String) : Session :=
  text.toList.foldl (fun s c => s.press (.char c false)) s

end Session
end Terminal
end TableShell
