import Mathlib.Algebra.Order.Ring.Nat
import Mathlib.Tactic.Ring
import TableShell.Proofs.Number.Digits

/-!
# Printed numbers are read back

The text of a number in a cell is read as that number (`read?_cellText`): the shortest decimal was
tested to round to it, and the rounding of a decimal does not depend on how it is written.
-/

namespace TableShell

/-! ## Rounding depends on the quotient alone -/

theorem roundHalfEven_mul_left {k : ℕ} (hk : 0 < k) (num den : ℕ) :
    roundHalfEven (k * num) (k * den) = roundHalfEven num den := by
  have hlt : 2 * (k * (num % den)) < k * den ↔ 2 * (num % den) < den := by
    rw [Nat.mul_left_comm, Nat.mul_lt_mul_left hk]
  have heq : 2 * (k * (num % den)) = k * den ↔ 2 * (num % den) = den := by
    rw [Nat.mul_left_comm, Nat.mul_right_inj (Nat.pos_iff_ne_zero.mp hk)]
  simp only [roundHalfEven, Nat.mul_div_mul_left _ _ hk, Nat.mul_mod_mul_left, hlt, heq]

theorem roundUnits_mul_left {k : ℕ} (hk : 0 < k) (num den : ℕ) :
    roundUnits (k * num) (k * den) = roundUnits num den := by
  simp only [roundUnits, Nat.mul_div_mul_left _ _ hk, Nat.mul_assoc, roundHalfEven_mul_left hk]

namespace Binary64

theorem ofUnits_mul_left (negative : Bool) {k : ℕ} (hk : 0 < k) (num den : ℕ) :
    ofUnits negative (k * num) (k * den) = ofUnits negative num den := by
  simp only [ofUnits, roundUnits_mul_left hk]

/-- Rounding treats both signs alike. -/
theorem ofUnits_of_ofUnits_false {num den : ℕ} {m : Magnitude} (negative : Bool)
    (h : ofUnits false num den = finite false m) :
    ofUnits negative num den = finite negative m := by
  rw [ofUnits] at h ⊢
  split at h
  · rename_i hlt
    cases h
    rw [dif_pos hlt]
  · cases h

/-- Rounding gives a number. -/
theorem ofUnits_ne_nan (negative : Bool) (num den : ℕ) : ofUnits negative num den ≠ nan := by
  rw [ofUnits]
  split <;> exact Binary64.noConfusion

end Binary64

/-- Zero is not rounded. -/
theorem roundUnits_zero (den : ℕ) : roundUnits 0 den = 0 := by
  have hround : ∀ n : ℕ, roundHalfEven 0 n = 0 := by
    intro n
    rw [roundHalfEven, Nat.zero_div, Nat.zero_mod]
    rw [if_pos (by omega)]
  rw [roundUnits, hround, Nat.zero_mul]

/-! ## Decimals that stand for the same number -/

namespace Decimal

open Binary64

/-- A zero moved from the coefficient to the exponent changes nothing. -/
theorem nearest_ten_mul (negative : Bool) (coefficient : ℕ) (exponent : ℤ) :
    nearest negative ⟨10 * coefficient, exponent⟩
      = nearest negative ⟨coefficient, exponent + 1⟩ := by
  simp only [nearest, Nat.pow_eq]
  generalize Magnitude.one = one
  by_cases h : 0 ≤ exponent
  · have hup : (exponent + 1).toNat = exponent.toNat + 1 := by omega
    have hdown : (-exponent).toNat = 0 := by omega
    have hdown' : (-(exponent + 1)).toNat = 0 := by omega
    rw [hup, hdown, hdown', Nat.pow_succ]
    congr 1
    ring
  · have hup : exponent.toNat = 0 := by omega
    have hup' : (exponent + 1).toNat = 0 := by omega
    have hdown : (-exponent).toNat = (-(exponent + 1)).toNat + 1 := by omega
    rw [hup, hup', hdown, Nat.pow_succ, Nat.mul_comm _ 10, Nat.mul_assoc, Nat.mul_assoc,
      ofUnits_mul_left negative (by decide), Nat.mul_assoc]

theorem nearest_stripZeros (negative : Bool) (fuel : ℕ) (d : Decimal) :
    nearest negative (stripZeros fuel d) = nearest negative d := by
  induction fuel generalizing d with
  | zero => rfl
  | succ fuel ih =>
    rw [stripZeros]
    split
    · rename_i h
      have hten : 10 * (d.coefficient / 10) = d.coefficient :=
        Nat.mul_div_cancel' (Nat.dvd_of_mod_eq_zero h.2)
      rw [ih, ← nearest_ten_mul, hten]
    · rfl

theorem nearest_normalize (negative : Bool) (d : Decimal) :
    nearest negative d.normalize = nearest negative d :=
  nearest_stripZeros negative _ d

/-- A decimal is a whole number over a power of ten. -/
theorem nearest_over_pow (negative : Bool) (d : Decimal) :
    nearest negative ⟨d.coefficient * 10 ^ d.exponent.toNat, -((-d.exponent).toNat : ℤ)⟩
      = nearest negative d := by
  have hup : (-((-d.exponent).toNat : ℤ)).toNat = 0 := by omega
  have hdown : (- -((-d.exponent).toNat : ℤ)).toNat = (-d.exponent).toNat := by omega
  simp only [nearest, Nat.pow_eq, hup, hdown, Nat.pow_zero, Nat.mul_one]

end Decimal

/-! ## The shortest decimal -/

namespace Magnitude

open Decimal Binary64

theorem eq_of_units_eq {m n : Magnitude} (h : m.units = n.units) : m = n := by
  cases m
  cases n
  cases h
  rfl

/-- The exact decimal of a magnitude reads back. -/
theorem nearest_exact (m : Magnitude) : nearest false m.exact = finite false m := by
  have hten : Nat.pow 5 unitBits * one = Nat.pow 10 unitBits := by
    delta one
    generalize unitBits = n
    rw [Nat.pow_eq, Nat.pow_eq, Nat.pow_eq, ← Nat.mul_pow]
  have hpos : 0 < Nat.pow 10 unitBits := by
    generalize unitBits = n
    exact Nat.pow_pos (by decide)
  have hdown : (- -(unitBits : ℤ)).toNat = unitBits := by omega
  have hup : (-(unitBits : ℤ)).toNat = 0 := by omega
  have hone : Nat.pow 10 0 = 1 := rfl
  simp only [nearest, exact, hdown, hup, hone, Nat.mul_one, Nat.mul_assoc, hten]
  generalize Nat.pow 10 unitBits = power at hpos
  have hscaled := ofUnits_mul_left false hpos m.units 1
  rw [Nat.mul_one, ofUnits_units] at hscaled
  rw [Nat.mul_comm, hscaled]

theorem readsBack_iff {m : Magnitude} {d : Decimal} :
    m.readsBack d = true ↔ nearest false d = finite false m :=
  decide_eq_true_iff

/-- A neighbour is chosen only if it reads back. -/
theorem choose?_eq_some {below above d : Decimal} {belowReads aboveReads upper : Bool}
    (h : choose? below above belowReads aboveReads upper = some d) :
    (d = below ∧ belowReads = true) ∨ (d = above ∧ aboveReads = true) := by
  cases belowReads <;> cases aboveReads <;> cases upper <;> cases h <;> simp

/-- What the search on a grid finds was tested to read back. -/
theorem nearest_of_onGrid? {tie : Tie} {m : Magnitude} {exponent : ℤ} {d : Decimal}
    (h : m.onGrid? tie exponent = some d) : nearest false d = finite false m := by
  delta onGrid? at h
  dsimp only at h
  rcases choose?_eq_some h with ⟨hd, hreads⟩ | ⟨hd, hreads⟩ <;>
  · rw [← hd] at hreads
    exact readsBack_iff.mp hreads

/-- The shortest decimal of a magnitude reads back. -/
theorem nearest_shortest (tie : Tie) (m : Magnitude) :
    nearest false (m.shortest tie) = finite false m := by
  rw [shortest, nearest_normalize]
  cases hfound : (List.range 17).findSome? fun more =>
      m.onGrid? tie (m.decimalPoint - (more + 1 : ℕ)) with
  | none => exact nearest_exact m
  | some d =>
    obtain ⟨more, -, hgrid⟩ := List.exists_of_findSome?_eq_some hfound
    exact nearest_of_onGrid? hgrid

end Magnitude

/-! ## Texts of numbers -/

namespace Decimal

open Binary64

/-- Digits with few of them behind the point, and without a written power of ten, are read as the
decimal that they spell, unless it is zero. -/
theorem nearestOf_eq {negative : Bool} {whole fraction : List Char}
    (hne : ofDigits 0 (whole ++ fraction) ≠ 0) :
    nearestOf negative whole fraction 0
      = nearest negative ⟨ofDigits 0 (whole ++ fraction), -(fraction.length : ℤ)⟩ := by
  rw [nearestOf]
  simp only [hne, if_false]
  rw [if_neg (by omega), if_neg (by omega), Int.zero_sub]

/-- Digits spell a number. -/
theorem nearestOf_ne_nan (negative : Bool) (whole fraction : List Char) (power : ℤ) :
    nearestOf negative whole fraction power ≠ nan := by
  rw [nearestOf]
  split
  · exact Binary64.noConfusion
  · split
    · exact Binary64.noConfusion
    · split
      · exact Binary64.noConfusion
      · exact ofUnits_ne_nan _ _ _

/-- Digits with a point among them are a numeral. -/
theorem isNumeral_take_drop {cs : List Char} (h : ∀ c ∈ cs, isDigit c = true) {places : ℕ}
    (hpos : 0 < places) (hlt : places < cs.length) :
    IsNumeral (cs.take (cs.length - places) ++ '.' :: cs.drop (cs.length - places))
      (cs.take (cs.length - places)) (cs.drop (cs.length - places)) where
  text_eq := by
    rw [if_neg (by rw [← List.length_eq_zero_iff, List.length_drop]; omega)]
  whole_ne_nil := by
    rw [← List.length_pos_iff, List.length_take]
    omega
  isDigit_of_mem := by rwa [List.take_append_drop]

/-- Positional digits are a numeral that spells the decimal. -/
theorem exists_isNumeral_positional (d : Decimal) :
    ∃ whole fraction, IsNumeral d.positional whole fraction ∧
      ofDigits 0 (whole ++ fraction) = d.coefficient * 10 ^ d.exponent.toNat ∧
      fraction.length = (-d.exponent).toNat := by
  have hdigits : ∀ c ∈ digits d.coefficient, isDigit c = true := fun c => isDigit_of_mem_digits
  have hzeros : ∀ k, ∀ c ∈ zeros k, isDigit c = true := fun k c => isDigit_of_mem_zeros
  rw [positional]
  by_cases h : 0 ≤ d.exponent
  · refine ⟨digits d.coefficient ++ zeros d.exponent.toNat, [], ⟨?_, ?_, ?_⟩, ?_, ?_⟩
    · rw [if_pos h, if_pos rfl, List.append_nil]
    · exact List.append_ne_nil_of_left_ne_nil (digits_ne_nil _) _
    · rw [List.append_nil, List.forall_mem_append]
      exact ⟨hdigits, hzeros _⟩
    · rw [List.append_nil, ofDigits_append_zeros, ofDigits_digits]
    · rw [List.length_nil]
      omega
  · have hup : d.exponent.toNat = 0 := by omega
    have hplaces : 0 < (-d.exponent).toNat := by omega
    rw [if_neg h, hup, Nat.pow_zero, Nat.mul_one]
    simp only
    generalize (-d.exponent).toNat = places at hplaces
    -- the padded digits reach beyond the places behind the point
    have hlength : places
        < (zeros (places + 1 - (digits d.coefficient).length) ++ digits d.coefficient).length := by
      rw [List.length_append, zeros, List.length_replicate]
      omega
    have hpadded : ∀ c ∈ zeros (places + 1 - (digits d.coefficient).length)
        ++ digits d.coefficient, isDigit c = true := by
      rw [List.forall_mem_append]
      exact ⟨hzeros _, hdigits⟩
    have hvalue := ofDigits_zeros_append (places + 1 - (digits d.coefficient).length)
      (digits d.coefficient)
    rw [ofDigits_digits] at hvalue
    refine ⟨_, _, isNumeral_take_drop hpadded hplaces hlength, ?_, ?_⟩
    · rw [List.take_append_drop, hvalue]
    · rw [List.length_drop]
      omega

/-- Positional digits are read as their decimal. -/
theorem read?_positional (negative : Bool) {d : Decimal} (hne : d.coefficient ≠ 0) :
    read? (sign negative ++ d.positional) = some (nearest negative d) := by
  obtain ⟨whole, fraction, hnumeral, hvalue, hlength⟩ := exists_isNumeral_positional d
  have hpos : d.coefficient * 10 ^ d.exponent.toNat ≠ 0 :=
    Nat.mul_ne_zero hne (Nat.pow_pos (by decide)).ne'
  rw [hnumeral.read?_sign, nearestOf_eq (by rwa [hvalue]), hvalue, hlength, nearest_over_pow]

end Decimal

namespace Binary64

open Decimal

/-- A whole magnitude is so many ones. -/
theorem units_eq_floor_mul_one {m : Magnitude} (h : m.isIntegral = true) :
    m.units = m.floor * Magnitude.one := by
  rw [Magnitude.isIntegral, beq_iff_eq] at h
  rw [Magnitude.floor]
  exact (Nat.div_mul_cancel (Nat.dvd_of_mod_eq_zero h)).symm

theorem isNumeral_onePlace (m : Magnitude) : IsNumeral m.onePlace (digits m.floor) ['0'] where
  text_eq := rfl
  whole_ne_nil := digits_ne_nil _
  isDigit_of_mem := by
    rw [List.forall_mem_append]
    refine ⟨fun c => isDigit_of_mem_digits, fun c hc => ?_⟩
    rw [List.mem_singleton.mp hc]
    decide

/-- A whole magnitude written with one place behind the point is read as it. -/
theorem read?_onePlace (negative : Bool) {m : Magnitude} (h : m.isIntegral = true) :
    read? (sign negative ++ m.onePlace) = some (finite negative m) := by
  have hunits := units_eq_floor_mul_one h
  have hvalue : ofDigits 0 (digits m.floor ++ ['0']) = 10 * m.floor := by
    have hzero := ofDigits_append_zeros (digits m.floor) 1
    rw [ofDigits_digits, Nat.pow_one, Nat.mul_comm] at hzero
    exact hzero
  rw [(isNumeral_onePlace m).read?_sign]
  by_cases hfloor : m.floor = 0
  · have hzero : m = .zero := by
      rw [hfloor, Nat.zero_mul] at hunits
      exact Magnitude.eq_of_units_eq hunits
    rw [nearestOf, hvalue, hfloor, hzero]
    rfl
  · rw [nearestOf_eq (by rw [hvalue]; omega), hvalue, nearest_ten_mul]
    have hone : ∀ n : ℕ, n * Nat.pow 10 0 = n := Nat.mul_one
    show some (ofUnits negative (m.floor * Nat.pow 10 0 * Magnitude.one) (Nat.pow 10 0)) = _
    rw [hone, ← hunits]
    exact congrArg some (ofUnits_units negative m)

/-- The text of a finite number is a sign and a numeral. -/
theorem exists_isNumeral_cellText (negative : Bool) (m : Magnitude) :
    ∃ text whole fraction, (finite negative m).cellText = sign negative ++ text ∧
      IsNumeral text whole fraction := by
  rw [cellText]
  split
  · exact ⟨_, _, _, rfl, isNumeral_onePlace m⟩
  · obtain ⟨whole, fraction, hnumeral, -⟩ := exists_isNumeral_positional (m.shortest .up)
    exact ⟨_, whole, fraction, rfl, hnumeral⟩

/-- A magnitude that is not marked by `.0` is not zero. -/
theorem units_ne_zero_of_showsPoint {m : Magnitude} (h : m.showsPoint = false) : m.units ≠ 0 := by
  have hlimit : 0 < Magnitude.wholeLimit :=
    Nat.mul_pos (Nat.pow_pos (by decide)) Magnitude.one_pos
  intro hzero
  have hshows : m.showsPoint = true := by
    simp only [Magnitude.showsPoint, Magnitude.isIntegral, hzero, Nat.zero_mod, hlimit,
      beq_self_eq_true, decide_true, Bool.and_self]
  rw [hshows] at h
  cases h

/-- A decimal of a magnitude that is not zero has digits. -/
theorem coefficient_ne_zero {m : Magnitude} {d : Decimal} (h : nearest false d = finite false m)
    (hm : m.units ≠ 0) : d.coefficient ≠ 0 := by
  intro hzero
  rw [nearest, hzero, Nat.zero_mul, Nat.zero_mul, ofUnits] at h
  split at h
  · cases h
    exact hm (roundUnits_zero _)
  · cases h

/-- The text of a number in a cell is read as that number. -/
theorem read?_cellText {x : Binary64} (h : x ≠ nan) : read? x.cellText = some x := by
  cases x with
  | nan => exact absurd rfl h
  | infinite negative => cases negative <;> decide
  | finite negative m =>
    rw [cellText]
    split
    · rename_i hpoint
      rw [Magnitude.showsPoint, Bool.and_eq_true] at hpoint
      exact read?_onePlace negative hpoint.1
    · rename_i hpoint
      have hnearest := Magnitude.nearest_shortest .up m
      have hunits := units_ne_zero_of_showsPoint (Bool.eq_false_iff.mpr hpoint)
      rw [read?_positional negative (coefficient_ne_zero hnearest hunits)]
      exact congrArg some (ofUnits_of_ofUnits_false negative hnearest)

end Binary64
end TableShell
