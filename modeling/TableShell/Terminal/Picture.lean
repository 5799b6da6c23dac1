import TableShell.Terminal.Style
import TableShell.Text.Width

/-!
# Pictures of the screen

A picture is a list of rows of places; a place shows one symbol in a style. Pictures are put
together from lines of text, labels, boxes around pictures, and pictures side by side. A symbol of
more than one column takes further places, of which the first is covered by it (`cover`). Words are
put into lines as long as the width allows, and a word is cut only if no line can hold it
(`wrapWords`); cutting loses no character (`flatten_pieces`).
-/

namespace TableShell
namespace Terminal

/-- What one place of the screen shows. -/
structure Glyph where
  symbol : String
  style : Style
deriving DecidableEq, Inhabited

namespace Glyph

/-- An empty place. -/
def blank (style : Style) : Glyph :=
  ⟨" ", style⟩

end Glyph

/-- The rows of a part of the screen. -/
abbrev Picture := List (List Glyph)

namespace Picture

/-! ## Lines and labels -/

/-- The symbols of the spans with their styles. -/
def styledSymbols (spans : List Span) : List (Text.Symbol × Style) :=
  spans.flatMap fun span => (Text.symbols span.text.toList).map fun symbol => (symbol, span.style)

/-- The symbols at the front that fit the width together. -/
def fitting (width : Nat) : List (Text.Symbol × Style) → List (Text.Symbol × Style)
  | [] => []
  | entry :: rest =>
    if entry.1.columns ≤ width then entry :: fitting (width - entry.1.columns) rest else []

/-- The places filled up to the width. -/
def fill (width : Nat) (base : Style) (glyphs : List Glyph) : List Glyph :=
  glyphs ++ List.replicate (width - glyphs.length) (.blank base)

/-- A line of text on a ground of the style `base`, cut and filled to the width. Symbols without a
column, and those that no line of the width can hold, are left out. -/
def lineOf (width : Nat) (base : Style) (spans : List Span) : List Glyph :=
  let shown := (styledSymbols spans).filter fun entry =>
    0 < entry.1.columns && entry.1.columns ≤ width
  fill width base <| (fitting width shown).flatMap fun entry =>
    ⟨entry.1.text, entry.2.onTopOf base⟩ ::
      List.replicate (entry.1.columns - 1) (.blank base)

/-- The places of a label, the last one first, with one more symbol behind them. A symbol without a
column goes to the last place, and so does the first symbol with one if none before it had any. -/
def putSymbol (base : Style) (places : List Glyph × Nat) (symbol : Text.Symbol) :
    List Glyph × Nat :=
  let further := List.replicate (symbol.columns - 1) (Glyph.blank .plain)
  let columns := places.2 + symbol.columns
  match places with
  | (last :: before, n) =>
    if n = 0 || symbol.columns = 0 then
      (further ++ { last with symbol := last.symbol ++ symbol.text } :: before, columns)
    else
      (further ++ ⟨symbol.text, base⟩ :: last :: before, columns)
  | ([], _) => (further ++ [⟨symbol.text, base⟩], columns)

/-- One part of a line that stands for itself, as a title does, cut to the width. -/
def label (width : Nat) (base : Style) (text : String) : List Glyph :=
  if Text.columns text.toList = 0 then
    []
  else
    let symbols := (fitting width (styledSymbols [.raw text])).map Prod.fst
    (symbols.foldl (putSymbol base) ([], 0)).1.reverse

/-- A label filled up to the width, as a heading or a cell of a table is. -/
def labelOf (width : Nat) (base : Style) (text : String) : List Glyph :=
  fill width base (label width base text)

/-- What is seen of the places of a row, whose first one may be `covered`: a wide symbol covers the
place behind it. -/
def coverAfter (covered : Bool) : List Glyph → List Glyph
  | [] => []
  | glyph :: rest =>
    if covered then .blank .plain :: coverAfter false rest
    else glyph :: coverAfter (1 < Text.columns glyph.symbol.toList) rest

/-- What is seen of the places of a row. -/
def cover (row : List Glyph) : List Glyph :=
  coverAfter false row

/-! ## Boxes -/

/-- The rows cut and filled to the height. -/
def heightOf (width height : Nat) (base : Style) (rows : Picture) : Picture :=
  rows.take height ++
    List.replicate (height - rows.length) (List.replicate width (.blank base))

/-- The upper border of a box, with its title. -/
def upperBorder (width : Nat) (style : Style) (title : String) : List Glyph :=
  let title := label width style title
  ⟨"┌", style⟩ :: title ++ List.replicate (width - title.length) ⟨"─", style⟩ ++ [⟨"┐", style⟩]

/-- A box of a border around a picture of the given width. -/
def box (width : Nat) (style : Style) (title : String) (inner : Picture) : Picture :=
  upperBorder width style title ::
    inner.map (fun row => ⟨"│", style⟩ :: row ++ [⟨"│", style⟩]) ++
    [⟨"└", style⟩ :: List.replicate width ⟨"─", style⟩ ++ [⟨"┘", style⟩]]

/-- Two pictures side by side. -/
def beside (left right : Picture) : Picture :=
  List.zipWith (· ++ ·) left right

/-! ## Words -/

/-- A word cut into pieces of the width, of which the last may be shorter. -/
def pieces (width : Nat) (word : List Char) : List (List Char) :=
  if 0 < width ∧ width < word.length then
    word.take width :: pieces width (word.drop width)
  else
    [word]
termination_by word.length
decreasing_by
  rw [List.length_drop]
  omega

/-- The pieces put together are the word. -/
theorem flatten_pieces (width : Nat) (word : List Char) :
    (pieces width word).flatten = word := by
  fun_induction pieces width word with
  | case1 word _ ih => rw [List.flatten_cons, ih, List.take_append_drop]
  | case2 word _ => simp

/-- Lines, the last one first, with one more word: behind the last line if it fits there, else on
lines of its own. -/
def putWord (width : Nat) (lines : List (List Char)) (word : List Char) : List (List Char) :=
  match lines with
  | line :: before =>
    if line.length + 1 + word.length ≤ width then (line ++ ' ' :: word) :: before
    else (pieces width word).reverse ++ lines
  | [] => (pieces width word).reverse

/-- The words put into lines of at most the given width, each line as long as possible. A word that
is longer than a line is cut. -/
def wrapWords (width : Nat) (words : List String) : List String :=
  ((words.map String.toList).foldl (putWord width) []).reverse.map String.ofList

end Picture
end Terminal
end TableShell
