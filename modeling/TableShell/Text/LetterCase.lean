import TableShell.Text.CaseTable
import TableShell.Text.Ranges

/-!
# Lower case

`lower` gives the lower case of a text. A character maps on its own, except that a capital sigma at
the end of a word has a lower case of its own. `sameIgnoringAsciiCase` compares fixed keywords,
where only the letters of ASCII have two cases.
-/

namespace TableShell
namespace Text

/-- The run of capitals that holds the code point. -/
def CapitalRun.contains (run : CapitalRun) (code : Nat) : Bool :=
  run.first ≤ code && code ≤ run.last && (code - run.first) % run.step == 0

/-- The lower case of a character that stands alone. -/
def lowerChar (c : Char) : List Char :=
  if c.toNat < 0x80 then
    [c.toLower]
  else if c = 'İ' then
    -- the only capital whose lower case is two characters
    ['i', '\u0307']
  else
    match capitalRuns.find? (·.contains c.toNat) with
    | some run => [Char.ofNat (c.toNat + run.offset).toNat]
    | none => [c]

/-- The first of the characters that case does not ignore is cased. -/
def nextIsCased (cs : List Char) : Bool :=
  match cs.dropWhile (inRanges caseIgnorableRanges) with
  | c :: _ => inRanges casedRanges c
  | [] => false

/-- The lower case of the characters `cs` that follow the characters `before`, which stand in
reverse. -/
def lowerAfter (before : List Char) : List Char → List Char
  | [] => []
  | c :: rest =>
    let lowered :=
      if c = 'Σ' then
        -- at the end of a word sigma has a form of its own
        if nextIsCased before && !nextIsCased rest then ['ς'] else ['σ']
      else
        lowerChar c
    lowered ++ lowerAfter (c :: before) rest

/-- The lower case of the characters. -/
def lowerChars (cs : List Char) : List Char :=
  lowerAfter [] cs

/-- The lower case of the text. -/
def lower (s : String) : String :=
  .ofList (lowerChars s.toList)

@[simp] theorem toList_lower (s : String) : (lower s).toList = lowerChars s.toList := by
  simp [lower]

/-- A sigma is final only at the end of a word. -/
example : lower "ΟΔΟΣ ΣΑΣ" = "οδος σας" := by decide +kernel

/-- The two texts differ at most in the case of ASCII letters. -/
def sameIgnoringAsciiCase (s t : String) : Bool :=
  s.toList.map Char.toLower == t.toList.map Char.toLower

end Text
end TableShell
