import TableShell.Text.GraphemeTable
import TableShell.Text.Ranges

/-!
# Graphemes

A text is cut into graphemes, each of which a reader takes for one character: a letter with its
marks, a Korean syllable, a flag, a family of emoji. Whether a character goes on with the grapheme
before it hangs on the two characters at the cut and, for flags, pictographs and Indic consonants,
on a little more of what stands before (`Before`). Main statement: nothing is lost, the graphemes
put together are the text (`flatten_graphemes`).
-/

namespace TableShell
namespace Text

/-! ## Classes -/

/-- What a character is to its neighbours. -/
inductive GraphemeClass
  | carriageReturn
  | lineFeed
  | control
  | extend
  | joiner
  | spacing
  | prepend
  /-- A half of a flag. -/
  | flag
  /-- The opening consonant of a Korean syllable. -/
  | lead
  | vowel
  | tail
  /-- A Korean syllable without a closing consonant. -/
  | openSyllable
  | closedSyllable
  | other
deriving DecidableEq

/-- The code point of the first Korean syllable that is written as one character. -/
def firstSyllable : Nat := 0xAC00

/-- The code point of the last such syllable. -/
def lastSyllable : Nat := 0xD7A3

/-- The number of syllables that differ in their closing consonant only. -/
def syllableTails : Nat := 28

/-- The class of a character. -/
def graphemeClass (c : Char) : GraphemeClass :=
  let code := c.toNat
  if c = '\r' then .carriageReturn
  else if c = '\n' then .lineFeed
  else if 0x20 ≤ code && code < 0x7F then .other
  else if inRanges controlRanges c then .control
  else if c = '\u200D' then .joiner
  else if inRanges extendRanges c then .extend
  else if inRanges spacingRanges c then .spacing
  else if inRanges prependRanges c then .prepend
  else if 0x1F1E6 ≤ code && code ≤ 0x1F1FF then .flag
  else if inRanges leadRanges c then .lead
  else if inRanges vowelRanges c then .vowel
  else if inRanges tailRanges c then .tail
  else if firstSyllable ≤ code && code ≤ lastSyllable then
    if (code - firstSyllable) % syllableTails = 0 then .openSyllable else .closedSyllable
  else .other

/-! ## What stands before a cut -/

/-- Where the text stands in a sequence of pictographs. -/
inductive Pictured
  | no
  /-- A pictograph, perhaps with what extends it. -/
  | yes
  /-- The same with a joiner behind it. -/
  | joined
deriving DecidableEq

/-- Where the text stands in a conjunct of Indic consonants. -/
inductive Conjunct
  | no
  /-- A consonant, perhaps with marks. -/
  | consonant
  /-- The same with a linker among the marks. -/
  | linked
deriving DecidableEq

/-- What the rules look at in the text before a cut. -/
structure Before where
  last : GraphemeClass
  /-- An odd number of halves of flags stands at the end. -/
  oddFlags : Bool
  pictured : Pictured
  conjunct : Conjunct

namespace Before

/-- The sequence of pictographs behind one more character. -/
def nextPictured (before : Pictured) (c : Char) : Pictured :=
  match graphemeClass c, before with
  | .extend, .yes => .yes
  | .joiner, .yes => .joined
  | _, _ => if inRanges pictureRanges c then .yes else .no

/-- The conjunct behind one more character. -/
def nextConjunct (before : Conjunct) (c : Char) : Conjunct :=
  if inRanges conjunctRanges c then .consonant
  else if before = .no then .no
  else if inRanges linkerRanges c then .linked
  else match graphemeClass c with
    -- the mark that keeps letters apart ends a conjunct
    | .extend => if c = '\u200C' then .no else before
    | .joiner => before
    | _ => .no

/-- The text with nothing but the character. -/
def start (c : Char) : Before where
  last := graphemeClass c
  oddFlags := graphemeClass c = .flag
  pictured := nextPictured .no c
  conjunct := nextConjunct .no c

/-- The text with the character behind it. -/
def push (before : Before) (c : Char) : Before where
  last := graphemeClass c
  oddFlags := graphemeClass c = .flag && !before.oddFlags
  pictured := nextPictured before.pictured c
  conjunct := nextConjunct before.conjunct c

/-- The character goes on with the grapheme before it. -/
def joins (before : Before) (c : Char) : Bool :=
  match before.last, graphemeClass c with
  | .carriageReturn, .lineFeed => true
  | .carriageReturn, _ | .lineFeed, _ | .control, _ => false
  | _, .carriageReturn | _, .lineFeed | _, .control => false
  | _, .extend | _, .joiner | _, .spacing => true
  | .prepend, _ => true
  | .lead, .lead | .lead, .vowel | .lead, .openSyllable | .lead, .closedSyllable => true
  | .vowel, .vowel | .vowel, .tail | .openSyllable, .vowel | .openSyllable, .tail => true
  | .tail, .tail | .closedSyllable, .tail => true
  -- flags are pairs, counted from the first half on
  | .flag, .flag => before.oddFlags
  | _, _ =>
    (before.pictured = .joined && inRanges pictureRanges c) ||
      (before.conjunct = .linked && inRanges conjunctRanges c)

end Before

/-! ## Cutting -/

/-- The rest of the grapheme that the text before it ends in, and the graphemes behind it. -/
def graphemesAfter (before : Before) : List Char → List Char × List (List Char)
  | [] => ([], [])
  | c :: rest =>
    let (same, others) := graphemesAfter (before.push c) rest
    if before.joins c then (c :: same, others) else ([], (c :: same) :: others)

/-- The text cut into graphemes. -/
def graphemes : List Char → List (List Char)
  | [] => []
  | c :: rest =>
    let (same, others) := graphemesAfter (.start c) rest
    (c :: same) :: others

theorem flatten_graphemesAfter (before : Before) (cs : List Char) :
    (graphemesAfter before cs).1 ++ (graphemesAfter before cs).2.flatten = cs := by
  induction cs generalizing before with
  | nil => rfl
  | cons c rest ih =>
    have h := ih (before.push c)
    by_cases hc : before.joins c <;> simp [graphemesAfter, hc, h]

/-- The graphemes put together are the text. -/
@[simp] theorem flatten_graphemes (cs : List Char) : (graphemes cs).flatten = cs := by
  cases cs with
  | nil => rfl
  | cons c rest => simp [graphemes, flatten_graphemesAfter]

/-- Two flags are two graphemes, and so are a line end and what follows it. -/
example : (graphemes "🇩🇪🇫🇷".toList).length = 2 ∧ (graphemes "\r\na".toList).length = 2 := by
  decide +kernel

end Text
end TableShell
