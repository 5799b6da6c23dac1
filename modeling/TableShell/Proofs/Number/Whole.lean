import TableShell.Proofs.Number.ReadBack

/-!
# Numbers whose text is a whole number

The text of a number in a cell has no point only if the number is whole, and then only from `10¹⁶`
on (`exists_of_read?_cellText`): a decimal without places is rounded to a whole number.
-/

namespace TableShell

/-- Rounding keeps a factor that is a power of two: either it drops fewer bits, and then none that
counts, or all that is left has the factor. -/
theorem two_pow_dvd_roundUnits {k num : ℕ} (h : 2 ^ k ∣ num) : 2 ^ k ∣ roundUnits num 1 := by
  rw [roundUnits, Nat.div_one, Nat.one_mul, Nat.pow_eq]
  by_cases hk : k ≤ excessBits num
  · exact Nat.dvd_mul_left_of_dvd (Nat.pow_dvd_pow 2 hk) _
  · have hstep : 2 ^ excessBits num ∣ num := (Nat.pow_dvd_pow 2 (by omega)).trans h
    have hexact : roundHalfEven num (2 ^ excessBits num) = num / 2 ^ excessBits num := by
      have hpos : 0 < 2 ^ excessBits num := Nat.two_pow_pos _
      rw [roundHalfEven, Nat.mod_eq_zero_of_dvd hstep, if_pos (Or.inl (by omega))]
    rw [hexact, Nat.div_mul_cancel hstep]
    exact h

namespace Magnitude

open Binary64 Decimal

/-- A decimal without places behind the point is rounded to a whole number. -/
theorem isIntegral_of_nearest {m : Magnitude} {d : Decimal} (h : nearest false d = finite false m)
    (hexponent : 0 ≤ d.exponent) : m.isIntegral = true := by
  have hplaces : (-d.exponent).toNat = 0 := by omega
  have hone : one ∣ roundUnits (d.coefficient * Nat.pow 10 d.exponent.toNat * one) 1 := by
    delta one
    generalize unitBits = bits
    exact two_pow_dvd_roundUnits (Nat.dvd_mul_left _ _)
  rw [nearest, hplaces, ofUnits] at h
  split at h
  · have hunits := congrArg units (finite.inj h).2
    rw [isIntegral, ← hunits, beq_iff_eq]
    exact Nat.mod_eq_zero_of_dvd hone
  · cases h

end Magnitude

namespace Integer

open Binary64 Decimal

/-- What has a point is no whole number. -/
theorem read?_eq_none_of_fraction {text whole fraction : List Char}
    (h : IsNumeral text whole fraction) (hfraction : fraction ≠ []) (negative : Bool) :
    read? (sign negative ++ text) = none := by
  have hpoint : '.' ∈ text := by
    rw [h.text_eq, if_neg hfraction]
    exact List.mem_append_right _ List.mem_cons_self
  obtain ⟨c, cs, rfl, hdigit⟩ := h.exists_cons
  rw [read?, takeSign_sign negative hdigit]
  refine if_neg ?_
  rintro ⟨-, hall⟩
  have hdigits := List.all_eq_true.mp hall '.' hpoint
  exact absurd hdigits (by decide)

/-- A decimal that is read as a whole number has no places behind the point. -/
theorem exponent_nonneg_of_read?_positional {negative : Bool} {d : Decimal} {i : Int64}
    (h : read? (sign negative ++ d.positional) = some i) : 0 ≤ d.exponent := by
  obtain ⟨whole, fraction, hnumeral, -, hlength⟩ := exists_isNumeral_positional d
  by_contra hexponent
  have hfraction : fraction ≠ [] := by
    rw [← List.length_pos_iff, hlength]
    omega
  rw [read?_eq_none_of_fraction hnumeral hfraction] at h
  cases h

/-- A sign and digits are those of the whole number that they are read as. -/
theorem digits_of_read?_sign {negative : Bool} {n : ℕ} {i : Int64} (hn : n ≠ 0)
    (h : read? (sign negative ++ Decimal.digits n) = some i) :
    digits i.toInt = sign negative ++ Decimal.digits n := by
  have hdigit : ∀ c ∈ Decimal.digits n, isDigit c = true := fun c => isDigit_of_mem_digits
  have hall : (Decimal.digits n).all isDigit = true := List.all_eq_true.mpr hdigit
  have hne := digits_ne_nil n
  have hvalue := ofDigits_digits n
  have hread : ofInt? (if negative then -(n : ℤ) else n) = some i := by
    rw [read?] at h
    cases htext : Decimal.digits n with
    | nil => exact absurd htext hne
    | cons c cs =>
      rw [htext] at h hall hne hvalue hdigit
      rw [takeSign_sign negative (hdigit c List.mem_cons_self)] at h
      simp only [ne_eq, hne, not_false_eq_true, hall, and_self, if_true, hvalue] at h
      exact h
  rw [digits_eq, toInt_of_ofInt? hread]
  cases negative with
  | true =>
    have hsign : decide (-(n : ℤ) < 0) = true := decide_eq_true (by omega)
    rw [if_pos rfl, hsign, Int.natAbs_neg, Int.natAbs_natCast]
  | false =>
    have hsign : decide ((n : ℤ) < 0) = false := decide_eq_false (by omega)
    rw [if_neg Bool.false_ne_true, hsign, Int.natAbs_natCast]

/-- A number whose text is a whole number is whole, and too large to be marked by `.0`. -/
theorem exists_of_read?_cellText {x : Binary64} {i : Int64} (h : read? x.cellText = some i) :
    ∃ negative m, x = finite negative m ∧ m.isIntegral = true ∧ Magnitude.wholeLimit ≤ m.units := by
  cases x with
  | nan =>
    have hnone : read? nan.cellText = none := by decide
    rw [hnone] at h
    cases h
  | infinite negative =>
    have hnone : read? (infinite negative).cellText = none := by cases negative <;> decide
    rw [hnone] at h
    cases h
  | finite negative m =>
    rw [cellText] at h
    split at h
    · have hfraction : ['0'] ≠ [] := List.cons_ne_nil _ _
      rw [read?_eq_none_of_fraction (isNumeral_onePlace m) hfraction] at h
      cases h
    · rename_i hpoint
      have hintegral : m.isIntegral = true :=
        Magnitude.isIntegral_of_nearest (Magnitude.nearest_shortest .up m)
          (exponent_nonneg_of_read?_positional h)
      refine ⟨negative, m, rfl, hintegral, ?_⟩
      rw [Magnitude.showsPoint, hintegral, Bool.true_and, decide_eq_true_eq] at hpoint
      omega

/-- A number whose text is a whole number has the text of that number. -/
theorem digits_of_read?_cellText {x : Binary64} {i : Int64} (h : read? x.cellText = some i) :
    digits i.toInt = x.cellText := by
  obtain ⟨negative, m, rfl, hintegral, hlarge⟩ := exists_of_read?_cellText h
  have hpoint : m.showsPoint = false := by
    rw [Magnitude.showsPoint, hintegral, Bool.true_and]
    exact decide_eq_false (by omega)
  have htext : (finite negative m).cellText = sign negative ++ (m.shortest .up).positional := by
    rw [cellText, hpoint, if_neg Bool.false_ne_true]
  rw [htext] at h
  have hne := coefficient_ne_zero (Magnitude.nearest_shortest .up m)
    (units_ne_zero_of_showsPoint hpoint)
  have hdigits : (m.shortest .up).positional = Decimal.digits
      ((m.shortest .up).coefficient * 10 ^ (m.shortest .up).exponent.toNat) := by
    rw [positional, if_pos (exponent_nonneg_of_read?_positional h), digits_append_zeros hne]
  rw [htext]
  rw [hdigits] at h ⊢
  exact digits_of_read?_sign (Nat.mul_ne_zero hne (Nat.pow_pos (by decide)).ne') h

end Integer
end TableShell
