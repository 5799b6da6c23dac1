import TableShell.Text.Grapheme
import TableShell.Text.WidthTable

/-!
# Widths of texts

How many columns of a terminal a text takes. Most characters take as many as they take alone: none
if they stand with another, two if they are wide, else one. Some look at what stands behind them
(`Behind`), so a text is measured from its end: a line end of two characters, selectors that make an
emoji of a character or a text of an emoji, emoji put together by joiners and tones of skin, and
Khmer letters put below others.
-/

namespace TableShell
namespace Text

/-! ## Single characters -/

/-- The columns that a character takes alone. A line feed takes none, unlike other controls. -/
def columnsAlone (c : Char) : Nat :=
  if c = '\n' then 0
  else if c.toNat ≤ 0xA0 then 1
  -- a sign that stands for a word of three letters
  else if c = '\u17D8' then 3
  else if inRanges zeroRanges c then 0
  else if inRanges wideRanges c then 2
  else 1

/-- The character is a tone of skin. -/
def isTone (c : Char) : Bool :=
  0x1F3FB ≤ c.toNat && c.toNat ≤ 0x1F3FF

/-- The character is a letter of a tag. -/
def isTagLetter (c : Char) : Bool :=
  0xE0061 ≤ c.toNat && c.toNat ≤ 0xE007A

/-- The character is a digit of a tag. -/
def isTagDigit (c : Char) : Bool :=
  0xE0030 ≤ c.toNat && c.toNat ≤ 0xE0039

/-- The character that ends a tag. -/
def tagEnd : Char :=
  .ofNat 0xE007F

/-- The character is an emoji that a selector can turn into a text of one column. -/
def hasTextForm (c : Char) : Bool :=
  inRanges variedRanges c && inRanges emojiRanges c &&
    -- the words in squares stay wide
    !(0x1F200 ≤ c.toNat && c.toNat ≤ 0x1F2FF)

/-! ## What stands behind -/

/-- What the characters behind a place mean for the one at it. -/
inductive Behind
  | nothing
  | lineFeed
  /-- A selector of the form as text. -/
  | textSelector
  /-- A selector of the form as emoji. -/
  | emojiSelector
  | tone
  | emoji
  /-- An emoji with a joiner before it. -/
  | joined
  /-- The same with the frame of a key before it. -/
  | joinedKey
  /-- The same with a selector of the form as emoji before it, or before the frame. -/
  | joinedSelector
  /-- The same with the end of a tag before it, and so many digits and letters of the tag. -/
  | joinedTag (digits letters : Nat)
  /-- A letter that can be put below another. -/
  | subjoined
deriving DecidableEq

/-- What a character alone means for the one before it. -/
def Behind.ofChar (c : Char) : Behind :=
  if c = '\n' then .lineFeed
  else if c = '\uFE0E' then .textSelector
  else if c = '\uFE0F' then .emojiSelector
  else if isTone c then .tone
  else if inRanges emojiRanges c then .emoji
  else if inRanges subjoinedRanges c then .subjoined
  else .nothing

/-- The meaning together of a character and what stands behind it, if the character takes no column
because of that. The tag of a flag is three to six letters, or three digits and up to four
letters. -/
def Behind.withPart (c : Char) : Behind → Option Behind
  | .lineFeed => if c = '\r' then some .nothing else none
  | .tone =>
    if inRanges tonedRanges c then some .emoji
    else if c = '\u200D' then some .joined
    else none
  | .emoji => if c = '\u200D' then some .joined else none
  | .joined =>
    if c = '\uFE0F' then some .joinedSelector
    else if c = '\u20E3' then some .joinedKey
    else if c = tagEnd then some (.joinedTag 0 0)
    else if isTone c then some .tone
    else if inRanges emojiRanges c then some .emoji
    else none
  | .joinedKey => if c = '\uFE0F' then some .joinedSelector else none
  | .joinedSelector => if inRanges variedRanges c then some .emoji else none
  | .joinedTag digits letters =>
    if isTagLetter c && digits = 0 && letters < 6 then some (.joinedTag 0 (letters + 1))
    else if isTagDigit c && digits < 3 && letters ≤ 4 then some (.joinedTag (digits + 1) letters)
    else if c = '🏴' && (digits = 3 || digits = 0 && 3 ≤ letters) then some .emoji
    else none
  | .subjoined => if inRanges transparentRanges c then some .subjoined else none
  | _ => none

/-- The columns of a text and its meaning for what stands before it. -/
structure Extent where
  columns : Nat
  meaning : Behind
deriving DecidableEq

namespace Extent

/-- A character before a text that it does not change. -/
def putApart (c : Char) (text : Extent) : Extent :=
  match text.meaning.withPart c with
  | some meaning => ⟨text.columns, meaning⟩
  | none => ⟨columnsAlone c + text.columns, .ofChar c⟩

/-- A character put before a text. -/
def put (c : Char) (text : Extent) : Extent :=
  match text.meaning with
  | .textSelector => if hasTextForm c then ⟨1 + text.columns, .nothing⟩ else putApart c text
  | .emojiSelector =>
    if inRanges variedRanges c then ⟨2 + text.columns, .emoji⟩ else putApart c text
  | .subjoined =>
    -- the letter was counted, and now stands below another
    if c = '\u17D2' then ⟨text.columns - 1, .nothing⟩ else putApart c text
  | _ => putApart c text

end Extent

/-- The number of columns that the text takes. -/
def columns (cs : List Char) : Nat :=
  (cs.foldr Extent.put ⟨0, .nothing⟩).columns

/-- A family of emoji is as wide as one of them, and a selector makes a character wide or narrow. -/
example : columns ['👨', '\u200D', '👩', '\u200D', '👧'] = 2 ∧ columns ['❤', '\uFE0F'] = 2 ∧
    columns ['⌚', '\uFE0E'] = 1 := by
  decide +kernel

/-- A selector before a joiner keeps what it makes an emoji in a family, and parts all else. -/
example : columns ['❤', '\uFE0F', '\u200D', '🔥'] = 2 ∧
    columns ['👨', '\uFE0F', '\u200D', '👩'] = 4 := by
  decide +kernel

/-- A line end takes no column, and a carriage return alone takes one. -/
example : columns ['\r', '\n'] = 0 ∧ columns ['\n'] = 0 ∧ columns ['\r'] = 1 := by
  decide +kernel

/-- A grapheme, and the columns that it takes. -/
structure Symbol where
  text : String
  columns : Nat
deriving DecidableEq, Inhabited

/-- The graphemes of the text with their widths. -/
def symbols (cs : List Char) : List Symbol :=
  (graphemes cs).map fun grapheme => ⟨.ofList grapheme, columns grapheme⟩

end Text
end TableShell
