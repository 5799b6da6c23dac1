import TableShell.Number.Decimal

/-!
# Shortest decimals

`Magnitude.shortest` gives a decimal with the fewest digits among those that read back as the
magnitude, and of these the nearest to it. For one digit, then two, up to seventeen, it looks at the
two neighbours of the magnitude on that decimal grid; the first grid with a neighbour that reads
back wins. Whatever is returned reads back: it was tested, or it is the exact value.
-/

namespace TableShell

/-- Which neighbour to take when two lie equally near. -/
inductive Tie
  | up
  | even
deriving DecidableEq

namespace Decimal

/-- The same number with no zero at the end of its coefficient, found in at most `fuel` steps. -/
def stripZeros : (fuel : Nat) → Decimal → Decimal
  | 0, d => d
  | fuel + 1, d =>
    if d.coefficient ≠ 0 ∧ d.coefficient % 10 = 0 then
      stripZeros fuel ⟨d.coefficient / 10, d.exponent + 1⟩
    else
      d

/-- The same number with no zero at the end of its coefficient. -/
def normalize (d : Decimal) : Decimal :=
  stripZeros (digits d.coefficient).length d

end Decimal

namespace Magnitude

/-- The exact value of the magnitude. -/
def exact (m : Magnitude) : Decimal :=
  ⟨m.units * Nat.pow 5 unitBits, -unitBits⟩

/-- The decimal reads back as the magnitude. -/
def readsBack (m : Magnitude) (d : Decimal) : Bool :=
  d.nearest false = .finite false m

/-- The number of digits before the point, or minus the number of zeros behind it, for a magnitude
that is not zero. -/
def decimalPoint (m : Magnitude) : Int :=
  if m.floor = 0 then
    -(((List.range 324).find? fun zeros => one ≤ m.units * Nat.pow 10 (zeros + 1)).getD 324 : Nat)
  else
    (Decimal.digits m.floor).length

/-- Of two neighbours, the one that reads back; if both do, the one on the side of the magnitude. -/
def choose? (below above : Decimal) (belowReads aboveReads upper : Bool) : Option Decimal :=
  match belowReads, aboveReads with
  | true, true => some (if upper then above else below)
  | true, false => some below
  | false, true => some above
  | false, false => none

/-- The neighbour of the magnitude on the grid of `10 ^ exponent` that reads back, if one does. -/
def onGrid? (tie : Tie) (m : Magnitude) (exponent : Int) : Option Decimal :=
  let num := m.units * Nat.pow 10 (-exponent).toNat
  let den := one * Nat.pow 10 exponent.toNat
  let below : Decimal := ⟨num / den, exponent⟩
  let above : Decimal := ⟨num / den + 1, exponent⟩
  -- the magnitude lies by `rest / den` of a grid step above the lower neighbour
  let rest := num % den
  let upper : Bool := 2 * rest > den ||
    2 * rest == den && match tie with
      | .up => true
      | .even => num / den % 2 == 1
  choose? below above (m.readsBack below) (m.readsBack above) upper

/-- The shortest decimal that reads back as the magnitude. -/
def shortest (tie : Tie) (m : Magnitude) : Decimal :=
  let point := m.decimalPoint
  let found := (List.range 17).findSome? fun more => m.onGrid? tie (point - (more + 1 : Nat))
  (found.getD m.exact).normalize

end Magnitude
end TableShell
