import TableShell.Number.Shortest

/-!
# Layouts of floating point numbers

Two formats write numbers. A cell is written positionally whatever its size; JSON changes to a
power of ten for very large and very small numbers. Both write the fewest digits that read back,
and mark a number without fraction by `.0` as long as it is below `10¹⁶`.
-/

namespace TableShell

namespace Decimal

/-- The zeros that a shift of the point needs. -/
def zeros (n : Nat) : List Char :=
  List.replicate n '0'

/-- The decimal without a power of ten, and without a point if it is whole. -/
def positional (d : Decimal) : List Char :=
  let ds := digits d.coefficient
  if 0 ≤ d.exponent then
    ds ++ zeros d.exponent.toNat
  else
    let places := (-d.exponent).toNat
    -- one digit at least stands before the point
    let padded := zeros (places + 1 - ds.length) ++ ds
    padded.take (padded.length - places) ++ '.' :: padded.drop (padded.length - places)

/-- The decimal as one digit before the point and a signed power of ten. -/
def scientific (d : Decimal) : List Char :=
  let ds := digits d.coefficient
  let power := d.exponent + (ds.length - 1 : Nat)
  let mantissa := match ds with
    | first :: second :: rest => first :: '.' :: second :: rest
    | short => short
  mantissa ++ 'e' :: (if power < 0 then '-' else '+') :: digits power.natAbs

end Decimal

namespace Magnitude

/-- Below this bound a number without fraction is marked by `.0`: `10¹⁶`, in units. -/
def wholeLimit : Nat := Nat.pow 10 16 * one

/-- The magnitude is whole and small enough to be marked by `.0`. -/
def showsPoint (m : Magnitude) : Bool :=
  m.isIntegral && m.units < wholeLimit

/-- A whole magnitude with one place behind the point. -/
def onePlace (m : Magnitude) : List Char :=
  Decimal.digits m.floor ++ ['.', '0']

end Magnitude

namespace Binary64

/-- The minus sign of a negative number. -/
def sign (negative : Bool) : List Char :=
  if negative then ['-'] else []

/-- The text of a number in a cell. -/
def cellText : Binary64 → List Char
  | nan => ['N', 'a', 'N']
  | infinite negative => sign negative ++ ['i', 'n', 'f']
  | finite negative m =>
    sign negative ++ if m.showsPoint then m.onePlace else (m.shortest .up).positional

/-- JSON writes a number positionally from this bound on: `10⁻⁵`. -/
def positionalFrom (m : Magnitude) : Bool :=
  Magnitude.one ≤ m.units * Nat.pow 10 5

/-- The text of a number in JSON. -/
def jsonText : Binary64 → List Char
  | nan => ['n', 'u', 'l', 'l']
  | infinite _ => ['n', 'u', 'l', 'l']
  | finite negative m =>
    sign negative ++
      if m.showsPoint then
        m.onePlace
      else if positionalFrom m && m.units < Magnitude.wholeLimit then
        (m.shortest .even).positional
      else
        (m.shortest .even).scientific

end Binary64
end TableShell
