import Mathlib.Data.List.DropRight
import TableShell.Terminal.InputLine

/-!
# The input line as a zipper

A zipper is the text on the two sides of the cursor, and an edit touches only what lies next to it.
`Zipper.line` is the input line that a zipper stands for, where the cursor is the number of bytes of
the first part. Every edit of the line is the edit of that name on the zipper, so that the cursor
never comes to stand inside a character.
-/

namespace TableShell
namespace Terminal

open Text

/-- The characters before and behind the cursor, both from left to right. -/
structure Zipper where
  before : List Char
  after : List Char
deriving DecidableEq

/-! ## Bytes -/

@[simp] theorem byteLength_nil : byteLength [] = 0 := rfl

@[simp] theorem byteLength_cons (c : Char) (cs : List Char) :
    byteLength (c :: cs) = c.utf8Size + byteLength cs := rfl

@[simp] theorem byteLength_append (cs ds : List Char) :
    byteLength (cs ++ ds) = byteLength cs + byteLength ds := by
  induction cs with
  | nil => simp
  | cons c cs ih =>
    rw [List.cons_append, byteLength_cons, byteLength_cons, ih]
    omega

/-- The first bytes of a text are those of the characters that they belong to. -/
theorem takeBytes_append (before after : List Char) :
    takeBytes (byteLength before) (before ++ after) = before := by
  induction before with
  | nil =>
    cases after with
    | nil => rfl
    | cons c after =>
      have hpos := c.utf8Size_pos
      rw [List.nil_append, byteLength_nil, takeBytes, if_neg (by omega)]
  | cons c before ih =>
    rw [List.cons_append, byteLength_cons, takeBytes, if_pos (Nat.le_add_right _ _),
      Nat.add_sub_cancel_left, ih]

namespace Zipper

/-- The input line of the text on both sides. -/
def line (z : Zipper) : InputLine :=
  ⟨z.before ++ z.after, byteLength z.before⟩

theorem chars_line (z : Zipper) : z.line.chars = z.before ++ z.after := rfl

theorem cursor_line (z : Zipper) : z.line.cursor = byteLength z.before := rfl

@[simp] theorem before_line (z : Zipper) : z.line.before = z.before :=
  takeBytes_append z.before z.after

@[simp] theorem after_line (z : Zipper) : z.line.after = z.after := by
  rw [InputLine.after, before_line, line, List.drop_left]

/-! ## Edits -/

/-- Nothing is written. -/
def empty : Zipper :=
  ⟨[], []⟩

/-- The text with the cursor at its end. -/
def ofString (s : String) : Zipper :=
  ⟨s.toList, []⟩

/-- A character is written before the cursor. -/
def insert (z : Zipper) (c : Char) : Zipper :=
  ⟨z.before ++ [c], z.after⟩

/-- The last character before the cursor is taken away. -/
def backspace (z : Zipper) : Zipper :=
  ⟨z.before.dropLast, z.after⟩

/-- The first character behind the cursor is taken away. -/
def deleteForward (z : Zipper) : Zipper :=
  ⟨z.before, z.after.tail⟩

/-- One character goes from the left side to the right. -/
def left (z : Zipper) : Zipper :=
  ⟨z.before.dropLast, z.before.getLast?.toList ++ z.after⟩

/-- One character goes from the right side to the left. -/
def right (z : Zipper) : Zipper :=
  ⟨z.before ++ z.after.head?.toList, z.after.tail⟩

/-- All characters go to the right side. -/
def start (z : Zipper) : Zipper :=
  ⟨[], z.before ++ z.after⟩

/-- All characters go to the left side. -/
def stop (z : Zipper) : Zipper :=
  ⟨z.before ++ z.after, []⟩

/-- The characters behind the cursor that satisfy `p`, up to the first that does not, go to the left
side. -/
def skipRight (p : Char → Bool) (z : Zipper) : Zipper :=
  ⟨z.before ++ z.after.takeWhile p, z.after.dropWhile p⟩

/-- The characters before the cursor that satisfy `p`, back to the last that does not, go to the
right side. -/
def skipLeft (p : Char → Bool) (z : Zipper) : Zipper :=
  ⟨z.before.rdropWhile p, z.before.rtakeWhile p ++ z.after⟩

/-- Over the rest of a word, and over the blanks behind it. -/
def wordForward (z : Zipper) : Zipper :=
  (z.skipRight (!isBlank ·)).skipRight isBlank

/-- Back over blanks, and over the word before them. -/
def wordBackward (z : Zipper) : Zipper :=
  (z.skipLeft isBlank).skipLeft (!isBlank ·)

/-- What `wordBackward` skips is taken away. -/
def deleteWordBackward (z : Zipper) : Zipper :=
  ⟨z.wordBackward.before, z.after⟩

/-- What lies behind the cursor is taken away. -/
def deleteToEnd (z : Zipper) : Zipper :=
  ⟨z.before, []⟩

/-- What lies before the cursor is taken away. -/
def deleteToStart (z : Zipper) : Zipper :=
  ⟨[], z.after⟩

/-! ## The edits of the line -/

variable (z : Zipper)

theorem line_ofString (s : String) : (ofString s).line = .ofString s := by
  rw [line, ofString, List.append_nil, InputLine.ofString]

theorem line_insert (c : Char) : (z.insert c).line = z.line.insert c := by
  rw [InputLine.insert, before_line, after_line]
  simp [line, insert]

theorem line_backspace : z.backspace.line = z.line.backspace := by
  rw [InputLine.backspace, before_line, after_line]
  rfl

theorem line_deleteForward : z.deleteForward.line = z.line.deleteForward := by
  rw [InputLine.deleteForward, before_line, after_line]
  rfl

/-- A movement keeps the text, so only the new place of the cursor counts. -/
theorem line_eq_moveBehind {z z' : Zipper} (h : z'.before ++ z'.after = z.before ++ z.after) :
    z'.line = z.line.moveBehind z'.before := by
  rw [line, h, InputLine.moveBehind, line]

theorem text_left : z.left.before ++ z.left.after = z.before ++ z.after := by
  have hlast : z.before.dropLast ++ z.before.getLast?.toList = z.before := by
    cases z.before using List.reverseRecOn <;> simp
  rw [left, ← List.append_assoc, hlast]

theorem line_left : z.left.line = z.line.left := by
  rw [InputLine.left, before_line, line_eq_moveBehind z.text_left]
  rfl

theorem text_right : z.right.before ++ z.right.after = z.before ++ z.after := by
  have hrest : z.after.head?.toList ++ z.after.tail = z.after := by
    cases z.after <;> simp
  rw [right, List.append_assoc, hrest]

theorem line_right : z.right.line = z.line.right := by
  have hhead : z.after.head?.toList = z.after.take 1 := by
    cases z.after <;> simp
  rw [InputLine.right, before_line, after_line, line_eq_moveBehind z.text_right, ← hhead]
  rfl

theorem line_start : z.start.line = z.line.start :=
  line_eq_moveBehind (List.nil_append _)

theorem line_stop : z.stop.line = z.line.stop :=
  line_eq_moveBehind (List.append_nil _)

/-- Skipping keeps the text. -/
theorem text_skipRight (p : Char → Bool) :
    (z.skipRight p).before ++ (z.skipRight p).after = z.before ++ z.after := by
  rw [skipRight, List.append_assoc, List.takeWhile_append_dropWhile]

theorem text_skipLeft (p : Char → Bool) :
    (z.skipLeft p).before ++ (z.skipLeft p).after = z.before ++ z.after := by
  rw [skipLeft, ← List.append_assoc, List.rdropWhile_append_rtakeWhile]

theorem text_wordForward :
    z.wordForward.before ++ z.wordForward.after = z.before ++ z.after :=
  (text_skipRight _ _).trans (text_skipRight _ _)

theorem line_wordForward : z.wordForward.line = z.line.wordForward := by
  rw [InputLine.wordForward, before_line, after_line, line_eq_moveBehind z.text_wordForward]
  simp [wordForward, skipRight, InputLine.wordAhead]

theorem text_wordBackward :
    z.wordBackward.before ++ z.wordBackward.after = z.before ++ z.after :=
  (text_skipLeft _ _).trans (text_skipLeft _ _)

theorem line_wordBackward : z.wordBackward.line = z.line.wordBackward := by
  rw [InputLine.wordBackward, before_line, line_eq_moveBehind z.text_wordBackward]
  rfl

theorem line_deleteWordBackward : z.deleteWordBackward.line = z.line.deleteWordBackward := by
  rw [InputLine.deleteWordBackward, before_line, after_line]
  rfl

theorem line_deleteToEnd : z.deleteToEnd.line = z.line.deleteToEnd := by
  rw [InputLine.deleteToEnd, before_line, line, deleteToEnd, List.append_nil]
  rfl

theorem line_deleteToStart : z.deleteToStart.line = z.line.deleteToStart := by
  rw [InputLine.deleteToStart, after_line]
  rfl

end Zipper
end Terminal
end TableShell
