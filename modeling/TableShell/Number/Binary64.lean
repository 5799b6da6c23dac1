/-!
# Binary floating point numbers of 64 bits

A finite number is a sign and a magnitude, and a magnitude is a whole number of units of `2⁻¹⁰⁷⁴`,
the least positive value of the format. Counting in units makes every finite value a natural
number: order is the order of naturals, exactness is divisibility, and rounding keeps the upper 53
bits of a count. The format holds exactly the counts below `2²⁰⁹⁸` that have at most 53
significant bits.
-/

namespace TableShell

/-- One is this power of two of units. -/
def Magnitude.unitBits : Nat := 1074

/-- A count of units has at most so many bits. -/
def Magnitude.rangeBits : Nat := 2098

/-- The number one, in units. -/
def Magnitude.one : Nat := Nat.pow 2 unitBits

/-- The first count of units beyond the format. -/
def Magnitude.overflow : Nat := Nat.pow 2 rangeBits

/-- The count of units is a magnitude of the format. -/
def Representable (units : Nat) : Prop :=
  units < Magnitude.overflow ∧ ∃ m e : Nat, m < Nat.pow 2 53 ∧ units = m * Nat.pow 2 e

/-- The absolute value of a finite number. -/
structure Magnitude where
  units : Nat
  representable : Representable units

instance : DecidableEq Magnitude
  | ⟨m, _⟩, ⟨n, _⟩ => if h : m = n then isTrue (by subst h; rfl) else isFalse (by simp [h])

/-- A number of the format. -/
inductive Binary64
  | nan
  | infinite (negative : Bool)
  | finite (negative : Bool) (magnitude : Magnitude)
deriving DecidableEq

namespace Magnitude

theorem one_pos : 0 < one := by
  delta one
  generalize unitBits = n
  exact Nat.two_pow_pos n

theorem overflow_pos : 0 < overflow := by
  delta overflow
  generalize rangeBits = n
  exact Nat.two_pow_pos n

/-- The magnitude zero. -/
def zero : Magnitude :=
  ⟨0, overflow_pos, 0, 0, by decide, by decide⟩

instance : Inhabited Magnitude := ⟨zero⟩

/-- The magnitude has no fraction. -/
def isIntegral (m : Magnitude) : Bool :=
  m.units % one == 0

/-- The largest natural that the magnitude reaches. -/
def floor (m : Magnitude) : Nat :=
  m.units / one

end Magnitude

/-! ## Rounding -/

/-- The natural nearest to `num / den`; of two equally near, the even one. -/
def roundHalfEven (num den : Nat) : Nat :=
  let quotient := num / den
  let rest := num % den
  if 2 * rest < den ∨ (2 * rest = den ∧ quotient % 2 = 0) then quotient else quotient + 1

/-- The number of low bits by which a count exceeds 53 significant bits. -/
def excessBits (count : Nat) : Nat :=
  count.log2 - 52

/-- The count of units nearest to `num / den` among those with at most 53 significant bits. -/
def roundUnits (num den : Nat) : Nat :=
  let step := Nat.pow 2 (excessBits (num / den))
  roundHalfEven num (den * step) * step

theorem roundHalfEven_le {num den : Nat} : roundHalfEven num den ≤ num / den + 1 := by
  simp only [roundHalfEven]
  split <;> omega

/-- Without its excess bits, a count has at most 53 bits. -/
theorem div_lt_of_excessBits (num den : Nat) :
    num / (den * Nat.pow 2 (excessBits (num / den))) < Nat.pow 2 53 := by
  simp only [Nat.pow_eq]
  rw [← Nat.div_div_eq_div_mul, Nat.div_lt_iff_lt_mul (Nat.two_pow_pos _), ← Nat.pow_add]
  by_cases h : num / den = 0
  · rw [h]
    exact Nat.two_pow_pos _
  · refine Nat.lt_of_lt_of_le (Nat.lt_log2_self) ?_
    exact Nat.pow_le_pow_right (by decide) (by simp only [excessBits]; omega)

/-- Rounding gives at most 53 significant bits. -/
theorem significant_roundUnits (num den : Nat) :
    ∃ m e : Nat, m < Nat.pow 2 53 ∧ roundUnits num den = m * Nat.pow 2 e := by
  have hlt := div_lt_of_excessBits num den
  have hle := @roundHalfEven_le num (den * Nat.pow 2 (excessBits (num / den)))
  by_cases h : roundHalfEven num (den * Nat.pow 2 (excessBits (num / den))) < Nat.pow 2 53
  · exact ⟨_, _, h, rfl⟩
  · -- the count was rounded up to the next power of two
    refine ⟨Nat.pow 2 52, excessBits (num / den) + 1, by decide, ?_⟩
    have hval : roundHalfEven num (den * Nat.pow 2 (excessBits (num / den))) = Nat.pow 2 53 := by
      omega
    simp only [roundUnits, hval]
    simp only [Nat.pow_eq, ← Nat.pow_add]
    congr 1
    omega

/-- A count that the format holds is its own rounding. -/
theorem roundUnits_of_representable {units : Nat} (h : Representable units) :
    roundUnits units 1 = units := by
  obtain ⟨-, m, e, hm, rfl⟩ := h
  simp only [Nat.pow_eq] at hm ⊢
  have hdvd : 2 ^ excessBits (m * 2 ^ e) ∣ m * 2 ^ e := by
    refine Nat.dvd_trans (Nat.pow_dvd_pow 2 ?_) (Nat.dvd_mul_left _ _)
    by_cases hz : m * 2 ^ e = 0
    · simp [hz, excessBits, Nat.log2_zero]
    · have hlog : (m * 2 ^ e).log2 < 53 + e := by
        rw [Nat.log2_lt hz, Nat.pow_add]
        exact Nat.mul_lt_mul_of_pos_right hm (Nat.two_pow_pos _)
      simp only [excessBits]
      omega
  simp only [roundUnits, Nat.div_one, Nat.one_mul, roundHalfEven, Nat.pow_eq,
    Nat.mod_eq_zero_of_dvd hdvd]
  rw [if_pos (Or.inl (by rw [Nat.mul_zero]; exact Nat.two_pow_pos _))]
  exact Nat.div_mul_cancel hdvd

namespace Binary64

/-- The number of the format nearest to `± num / den` units; what rounds beyond the format is
infinite. -/
def ofUnits (negative : Bool) (num den : Nat) : Binary64 :=
  if h : roundUnits num den < Magnitude.overflow then
    finite negative ⟨roundUnits num den, h, significant_roundUnits num den⟩
  else
    infinite negative

/-- A magnitude is its own rounding. -/
theorem ofUnits_units (negative : Bool) (m : Magnitude) :
    ofUnits negative m.units 1 = finite negative m := by
  have h := roundUnits_of_representable m.representable
  simp only [ofUnits, h, m.representable.1, dif_pos]

/-- The number nearest to an integer. -/
def ofInt (n : Int) : Binary64 :=
  ofUnits (n < 0) (n.natAbs * Magnitude.one) 1

/-- Zero of the given sign. -/
def zero (negative : Bool) : Binary64 :=
  finite negative .zero

/-- The number is not a number. -/
def isNaN : Binary64 → Bool
  | nan => true
  | _ => false

/-- The number is neither infinite nor not a number. -/
def isFinite : Binary64 → Bool
  | finite _ _ => true
  | _ => false

/-! ## Order

A number that is one stands at an integer of the line of units; the infinities stand at its ends,
beyond all finite numbers. The two zeros stand at the same place. -/

/-- The place of the number on the line of units. -/
def place? : Binary64 → Option Int
  | nan => none
  | infinite negative => some (if negative then -(Magnitude.overflow : Int) else Magnitude.overflow)
  | finite negative m => some (if negative then -(m.units : Int) else m.units)

/-- The order of two numbers; nothing compares with what is not a number. -/
def compare? (x y : Binary64) : Option Ordering :=
  match x.place?, y.place? with
  | some a, some b => some (compare a b)
  | _, _ => none

/-! ## Product and quotient -/

/-- The rounded product of two finite magnitudes, with the given sign. -/
def product (negative : Bool) (m n : Magnitude) : Binary64 :=
  ofUnits negative (m.units * n.units) Magnitude.one

/-- The rounded quotient of two finite magnitudes, with the given sign, where the second is not
zero. -/
def quotient (negative : Bool) (m n : Magnitude) : Binary64 :=
  ofUnits negative (m.units * Magnitude.one) n.units

end Binary64
end TableShell
