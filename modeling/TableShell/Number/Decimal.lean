import TableShell.Number.Binary64

/-!
# Decimal numbers

A decimal is a natural coefficient times a power of ten. This module reads the two kinds of numbers
that texts hold: whole numbers of 64 bits, and floating point numbers, whose decimal is rounded
once, correctly, to the format.
-/

namespace TableShell

/-- The nonnegative number `coefficient * 10 ^ exponent`. -/
structure Decimal where
  coefficient : Nat
  exponent : Int
deriving DecidableEq, Inhabited

namespace Decimal

/-- The digit is one of ASCII. -/
def isDigit (c : Char) : Bool :=
  '0' ≤ c && c ≤ '9'

/-- The value of a digit. -/
def digitValue (c : Char) : Nat :=
  c.toNat - '0'.toNat

/-- The natural that the digits spell, after the digits of `start`. -/
def ofDigits (start : Nat) (digits : List Char) : Nat :=
  digits.foldl (fun n c => 10 * n + digitValue c) start

/-- The digits of a natural. -/
def digits (n : Nat) : List Char :=
  Nat.toDigits 10 n

/-- The number of the format nearest to the decimal, with the given sign. -/
def nearest (negative : Bool) (d : Decimal) : Binary64 :=
  .ofUnits negative (d.coefficient * Nat.pow 10 d.exponent.toNat * Magnitude.one)
    (Nat.pow 10 (-d.exponent).toNat)

/-- The whole and fractional digits around a point, and what follows them. -/
def takeMantissa (cs : List Char) : (List Char × List Char) × List Char :=
  let whole := cs.takeWhile isDigit
  match cs.dropWhile isDigit with
  | '.' :: rest => ((whole, rest.takeWhile isDigit), rest.dropWhile isDigit)
  | rest => ((whole, []), rest)

/-- Takes the sign off a number; a number without one is positive. -/
def takeSign : List Char → Bool × List Char
  | '-' :: rest => (true, rest)
  | '+' :: rest => (false, rest)
  | rest => (false, rest)

/-- The power of ten that ends a number: nothing, or `e` and a whole number. -/
def readExponent? : List Char → Option Int
  | [] => some 0
  | e :: rest =>
    let (negative, digits) := takeSign rest
    if (e = 'e' ∨ e = 'E') ∧ digits ≠ [] ∧ digits.all isDigit then
      some (if negative then -(ofDigits 0 digits : Int) else ofDigits 0 digits)
    else
      none

/-- The finite number that digits around a point and a written power of ten stand for. A power
that puts every nonzero digit far beyond the format is not computed. -/
def nearestOf (negative : Bool) (whole fraction : List Char) (power : Int) : Binary64 :=
  let coefficient := ofDigits 0 (whole ++ fraction)
  if coefficient = 0 then
    .zero negative
  else if power > fraction.length + 400 then
    .infinite negative
  else if power < -(whole.length + 400 : Int) then
    .zero negative
  else
    nearest negative ⟨coefficient, power - fraction.length⟩

end Decimal

namespace Binary64

/-- The number that the characters spell, without a sign: `inf`, `infinity` or `nan` in any case,
or digits with at most one point and at most one power of ten. -/
def readUnsigned? (negative : Bool) (cs : List Char) : Option Binary64 :=
  let word := cs.map Char.toLower
  if word = ['n', 'a', 'n'] then
    some nan
  else if word = ['i', 'n', 'f'] ∨ word = ['i', 'n', 'f', 'i', 'n', 'i', 't', 'y'] then
    some (infinite negative)
  else
    let ((whole, fraction), rest) := Decimal.takeMantissa cs
    if whole = [] ∧ fraction = [] then
      none
    else
      (Decimal.readExponent? rest).map (Decimal.nearestOf negative whole fraction)

/-- The number that the characters spell. -/
def read? (cs : List Char) : Option Binary64 :=
  let (negative, rest) := Decimal.takeSign cs
  readUnsigned? negative rest

end Binary64

/-! ## Whole numbers -/

namespace Integer

/-- The least whole number of 64 bits. -/
def least : Int := Int64.minValue.toInt

/-- The greatest whole number of 64 bits. -/
def greatest : Int := Int64.maxValue.toInt

/-- The whole number, if it fits 64 bits. -/
def ofInt? (n : Int) : Option Int64 :=
  if least ≤ n ∧ n ≤ greatest then some (Int64.ofInt n) else none

/-- The whole number of 64 bits nearest to `n`. -/
def saturate (n : Int) : Int64 :=
  Int64.ofInt (max least (min n greatest))

/-- The whole number of 64 bits that the characters spell: a sign or none, and digits. -/
def read? (cs : List Char) : Option Int64 :=
  let (negative, digits) := Decimal.takeSign cs
  if digits ≠ [] ∧ digits.all Decimal.isDigit then
    let n : Int := Decimal.ofDigits 0 digits
    ofInt? (if negative then -n else n)
  else
    none

/-- The digits of a whole number, behind a minus sign if it is negative. -/
def digits (n : Int) : List Char :=
  if n < 0 then '-' :: Decimal.digits n.natAbs else Decimal.digits n.natAbs

/-- Reading back a whole number that fits gives it. -/
theorem toInt_of_ofInt? {n : Int} {i : Int64} (h : ofInt? n = some i) : i.toInt = n := by
  by_cases hn : least ≤ n ∧ n ≤ greatest
  · rw [ofInt?, if_pos hn] at h
    cases h
    simp only [least, greatest, Int64.toInt_minValue, Int64.toInt_maxValue] at hn
    exact Int64.toInt_ofInt_of_le hn.1 (by omega)
  · rw [ofInt?, if_neg hn] at h
    cases h

end Integer
end TableShell
