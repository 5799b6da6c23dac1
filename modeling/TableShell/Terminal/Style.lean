/-!
# Styled text

Colours, styles, and runs of text in one style.
-/

namespace TableShell
namespace Terminal

/-- A colour of the terminal. -/
inductive Colour
  | black
  | red
  | green
  | yellow
  | blue
  | magenta
  | cyan
  | darkGray
  | white
deriving DecidableEq

/-- The name of a colour. -/
def Colour.name : Colour → String
  | black => "Black"
  | red => "Red"
  | green => "Green"
  | yellow => "Yellow"
  | blue => "Blue"
  | magenta => "Magenta"
  | cyan => "Cyan"
  | darkGray => "DarkGray"
  | white => "White"

/-- How text is shown; without a colour, in that of the terminal. -/
structure Style where
  foreground : Option Colour
  background : Option Colour
  bold : Bool
deriving DecidableEq, Inhabited

namespace Style

/-- The style of the terminal itself. -/
def plain : Style :=
  ⟨none, none, false⟩

/-- Text of a colour. -/
def colour (c : Colour) : Style :=
  ⟨some c, none, false⟩

/-- Bold text of a colour. -/
def boldColour (c : Colour) : Style :=
  ⟨some c, none, true⟩

/-- Text of one colour on another. -/
def on (foreground background : Colour) : Style :=
  ⟨some foreground, some background, false⟩

/-- What the style leaves open is taken from the one below it. -/
def onTopOf (s below : Style) : Style :=
  ⟨s.foreground.or below.foreground, s.background.or below.background, s.bold || below.bold⟩

end Style

/-- A run of text in one style. -/
structure Span where
  text : String
  style : Style
deriving DecidableEq, Inhabited

/-- A run of text in the style of the terminal. -/
def Span.raw (text : String) : Span :=
  ⟨text, .plain⟩

end Terminal
end TableShell
