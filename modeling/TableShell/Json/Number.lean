import TableShell.Json

/-!
# Numbers of JSON

A number without point and power is whole if it fits 64 bits, signed or unsigned; any other is a
floating point number. Its digits are taken into a whole number of 64 bits as long as they fit. That
number is rounded, and multiplied or divided by a power of ten, which rounds again: the result may
differ in the last place from the number that is written.
-/

namespace TableShell
namespace Json

/-- The greatest whole number without sign. -/
def unsignedLimit : Nat := UInt64.size - 1

/-- Digits taken from the front of a number. -/
structure Significand where
  value : Nat
  /-- How many digits of this part were taken. -/
  taken : Nat
  /-- How many were left out, from the first that did not fit. -/
  omitted : Nat

namespace Significand

/-- One more digit, as long as all before it were taken and it fits. -/
def push (s : Significand) (digit : Char) : Significand :=
  let value := 10 * s.value + Decimal.digitValue digit
  if s.omitted = 0 ∧ value ≤ unsignedLimit then
    { s with value, taken := s.taken + 1 }
  else
    { s with omitted := s.omitted + 1 }

/-- The digits taken from the front of `digits`, behind the value of the digits before them. -/
def take (value : Nat) (digits : List Char) : Significand :=
  digits.foldl push ⟨value, 0, 0⟩

end Significand

/-- The floating point number nearest to a power of ten. -/
def powerOfTen (n : Nat) : Binary64 :=
  .ofInt (Nat.pow 10 n)

/-- The largest power of ten that the format holds is `10 ^ maxPower`. -/
def maxPower : Nat := 308

/-- The magnitude of a number that is finite. -/
def finite? : Binary64 → Option Magnitude
  | .finite _ m => some m
  | _ => none

/-- The magnitude times a power of ten, rounded once for every factor; nothing beyond the format. A
power below the least is applied in parts until the magnitude vanishes, for which three parts are
always enough. -/
def scale : (parts : Nat) → Magnitude → (exponent : Int) → Option Magnitude
  | parts, m, exponent =>
    if exponent.natAbs ≤ maxPower then
      (finite? (powerOfTen exponent.natAbs)).bind fun power =>
        finite? (if 0 ≤ exponent then .product false m power else .quotient false m power)
    else if m.units = 0 then
      some m
    else if 0 ≤ exponent then
      none
    else
      match parts with
      | 0 => some .zero
      | parts + 1 =>
        (finite? (powerOfTen maxPower)).bind fun power =>
          (finite? (.quotient false m power)).bind fun m => scale parts m (exponent + maxPower)

/-- The written power of ten, `none` where it is beyond 32 bits, together with its sign. -/
structure Power where
  negative : Bool
  value : Nat

/-- The largest written power that is computed. -/
def powerLimit : Nat := Int32.maxValue.toInt.toNat

/-- The floating point number of its written parts. -/
def floatOf (negative : Bool) (whole fraction : List Char) (power : Power) : Option Json :=
  let front := Significand.take 0 whole
  let back := Significand.take front.value fraction
  let written : Int := if power.negative then -(power.value : Int) else power.value
  let magnitude :=
    if power.value > powerLimit then
      if back.value ≠ 0 ∧ !power.negative then none else some .zero
    else
      (finite? (.ofInt back.value)).bind fun m =>
        scale 3 m (written + front.omitted - back.taken)
  magnitude.map fun m => float (.finite negative m)

/-- The number without point and power. -/
def wholeNumber (negative : Bool) (digits : List Char) : Option Json :=
  let n := Decimal.ofDigits 0 digits
  if negative then
    if n ≠ 0 ∧ Integer.least ≤ -(n : Int) then
      some (integer (-n))
    else
      floatOf true digits [] ⟨false, 0⟩
  else if n ≤ unsignedLimit then
    some (integer n)
  else
    floatOf false digits [] ⟨false, 0⟩

/-- The power of ten at the end of a number: a sign or none, and digits. -/
def readPower? (cs : List Char) : Option Power :=
  let (negative, digits) := Decimal.takeSign cs
  if digits ≠ [] ∧ digits.all Decimal.isDigit then
    some ⟨negative, Decimal.ofDigits 0 digits⟩
  else
    none

/-- The number that the characters spell. Leading zeros, a point without digits on both sides and a
leading plus are no number. -/
def readNumber? (cs : List Char) : Option Json :=
  let (negative, unsigned) := match cs with
    | '-' :: rest => (true, rest)
    | rest => (false, rest)
  let whole := unsigned.takeWhile Decimal.isDigit
  let rest := unsigned.dropWhile Decimal.isDigit
  if whole = [] ∨ (whole.head? = some '0' ∧ whole ≠ ['0']) then
    none
  else
    let isPower (c : Char) : Bool := c = 'e' || c = 'E'
    match rest with
    | [] => wholeNumber negative whole
    | '.' :: rest =>
      let fraction := rest.takeWhile Decimal.isDigit
      if fraction = [] then
        none
      else
        match rest.dropWhile Decimal.isDigit with
        | [] => floatOf negative whole fraction ⟨false, 0⟩
        | c :: rest =>
          if isPower c then (readPower? rest).bind (floatOf negative whole fraction) else none
    | c :: rest => if isPower c then (readPower? rest).bind (floatOf negative whole []) else none

end Json
end TableShell
