import TableShell.Text.Blank

/-!
# The input line

One line of text that is edited at a cursor. The cursor is counted in bytes of UTF-8, and every
operation moves it by whole characters.
-/

namespace TableShell
namespace Terminal

open Text

/-- The number of bytes of the characters. -/
def byteLength (cs : List Char) : Nat :=
  cs.foldr (fun c bytes => c.utf8Size + bytes) 0

/-- The characters that lie wholly within the first `bytes` bytes. -/
def takeBytes (bytes : Nat) : List Char → List Char
  | [] => []
  | c :: rest => if c.utf8Size ≤ bytes then c :: takeBytes (bytes - c.utf8Size) rest else []

/-- A line and the place where it is edited. -/
structure InputLine where
  chars : List Char
  /-- The number of bytes before the cursor. -/
  cursor : Nat
deriving DecidableEq, Inhabited

namespace InputLine

/-- Nothing is written. -/
def empty : InputLine :=
  ⟨[], 0⟩

/-- The line with the cursor at its end. -/
def ofString (s : String) : InputLine :=
  ⟨s.toList, byteLength s.toList⟩

/-- The text of the line. -/
def text (l : InputLine) : String :=
  .ofList l.chars

/-- The characters before the cursor. -/
def before (l : InputLine) : List Char :=
  takeBytes l.cursor l.chars

/-- The characters from the cursor on. -/
def after (l : InputLine) : List Char :=
  l.chars.drop l.before.length

/-- The line with the cursor behind the first characters `cs` of it. -/
def moveBehind (l : InputLine) (cs : List Char) : InputLine :=
  { l with cursor := byteLength cs }

/-- A character is written at the cursor. -/
def insert (l : InputLine) (c : Char) : InputLine :=
  ⟨l.before ++ c :: l.after, l.cursor + c.utf8Size⟩

/-- The character before the cursor is taken away. -/
def backspace (l : InputLine) : InputLine :=
  let kept := l.before.dropLast
  ⟨kept ++ l.after, byteLength kept⟩

/-- The character at the cursor is taken away. -/
def deleteForward (l : InputLine) : InputLine :=
  { l with chars := l.before ++ l.after.tail }

/-- One character to the left. -/
def left (l : InputLine) : InputLine :=
  l.moveBehind l.before.dropLast

/-- One character to the right. -/
def right (l : InputLine) : InputLine :=
  l.moveBehind (l.before ++ l.after.take 1)

/-- To the start of the line. -/
def start (l : InputLine) : InputLine :=
  l.moveBehind []

/-- To the end of the line. -/
def stop (l : InputLine) : InputLine :=
  l.moveBehind l.chars

/-- The characters up to the next word: the rest of this one, and the blanks behind it. -/
def wordAhead (cs : List Char) : List Char :=
  let word := cs.takeWhile (!isBlank ·)
  let rest := cs.dropWhile (!isBlank ·)
  word ++ rest.takeWhile isBlank

/-- The characters up to the word that ends last in them, without the word. -/
def withoutLastWord (cs : List Char) : List Char :=
  ((trimRight cs).reverse.dropWhile (!isBlank ·)).reverse

/-- To the start of the next word. -/
def wordForward (l : InputLine) : InputLine :=
  l.moveBehind (l.before ++ wordAhead l.after)

/-- To the start of this word, or of the one before. -/
def wordBackward (l : InputLine) : InputLine :=
  l.moveBehind (withoutLastWord l.before)

/-- What lies between the start of the word and the cursor is taken away. -/
def deleteWordBackward (l : InputLine) : InputLine :=
  let kept := withoutLastWord l.before
  ⟨kept ++ l.after, byteLength kept⟩

/-- What lies behind the cursor is taken away. -/
def deleteToEnd (l : InputLine) : InputLine :=
  { l with chars := l.before }

/-- What lies before the cursor is taken away. -/
def deleteToStart (l : InputLine) : InputLine :=
  ⟨l.after, 0⟩

end InputLine
end Terminal
end TableShell
