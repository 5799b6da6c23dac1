/-!
# Blank characters

A character is blank when Unicode gives it the property `White_Space`. Words on a line, the edges
of a field and the edges of a number are all decided by this one class.
-/

namespace TableShell
namespace Text

/-- The ranges of the property `White_Space`, by code point, in order. -/
def blankRanges : List (Nat × Nat) :=
  [(0x09, 0x0D), (0x20, 0x20), (0x85, 0x85), (0xA0, 0xA0), (0x1680, 0x1680), (0x2000, 0x200A),
   (0x2028, 0x2029), (0x202F, 0x202F), (0x205F, 0x205F), (0x3000, 0x3000)]

/-- A blank separates words and is trimmed off the edges of a field. -/
def isBlank (c : Char) : Bool :=
  blankRanges.any fun range => range.1 ≤ c.toNat && c.toNat ≤ range.2

/-- Twenty-five characters are blank. -/
example : (blankRanges.map fun range => range.2 - range.1 + 1).sum = 25 := by decide

/-- The characters without their leading blanks. -/
def trimLeft (cs : List Char) : List Char :=
  cs.dropWhile isBlank

/-- The characters without their trailing blanks. -/
def trimRight (cs : List Char) : List Char :=
  (cs.reverse.dropWhile isBlank).reverse

/-- The characters without the blanks at either edge. -/
def trimChars (cs : List Char) : List Char :=
  trimRight (trimLeft cs)

/-- The text without the blanks at either edge. -/
def trim (s : String) : String :=
  .ofList (trimChars s.toList)

@[simp] theorem toList_trim (s : String) : (trim s).toList = trimChars s.toList := by
  simp [trim]

end Text
end TableShell
