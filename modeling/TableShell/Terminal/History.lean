/-!
# The history of lines

The lines that were run, and the one among them that has been recalled. A line that repeats the one
before it is not kept twice.
-/

namespace TableShell
namespace Terminal

/-- The lines that were run, the oldest first, and the number of the recalled one. -/
structure History where
  lines : List String
  index : Option Nat
deriving DecidableEq, Inhabited

namespace History

/-- Nothing was run. -/
def empty : History :=
  ⟨[], none⟩

/-- One more line was run. -/
def push (h : History) (line : String) : History :=
  ⟨if h.lines.getLast? = some line then h.lines else h.lines ++ [line], none⟩

/-- The recalled line. -/
def recalled? (h : History) : Option String :=
  h.index.bind fun i => h.lines[i]?

/-- The number of the line before the recalled one; the last line if none is recalled. -/
def indexBefore (h : History) : Nat :=
  match h.index with
  | none => h.lines.length - 1
  | some i => i - 1

/-- The line before the recalled one, if there are lines at all. -/
def up (h : History) : Option History :=
  if h.lines.isEmpty then none else some { h with index := some h.indexBefore }

/-- The line behind the recalled one, or none behind the last. Nothing happens where no line is
recalled. -/
def down (h : History) : Option History :=
  match h.index with
  | none => none
  | some i => some { h with index := if i + 1 < h.lines.length then some (i + 1) else none }

end History
end Terminal
end TableShell
