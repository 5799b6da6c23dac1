import Mathlib.Algebra.Order.Ring.Nat
import Mathlib.Data.Int.Notation
import Mathlib.Data.List.TakeWhile
import Mathlib.Tactic.Common
import TableShell.Number.Layout

/-!
# Digits that are read back

The digits of a natural spell it (`ofDigits_digits`), those of a whole number of 64 bits are read as
it (`Integer.read?_digits`), and `IsNumeral.read?_sign` says what number is read off a sign and a
numeral, which is made of digits and at most one point.
-/

namespace TableShell

/-! ## Digits of naturals -/

namespace Decimal

theorem ofDigits_eq (start : ℕ) (cs : List Char) :
    ofDigits start cs = Nat.ofDigitChars 10 cs start :=
  Nat.ofDigitChars_eq_foldl.symm

theorem ofDigits_digits (n : ℕ) : ofDigits 0 (digits n) = n := by
  rw [ofDigits_eq, digits, Nat.ofDigitChars_ten_toDigits]

/-- Zeros in front do not count. -/
theorem ofDigits_zeros_append (k : ℕ) (cs : List Char) :
    ofDigits 0 (zeros k ++ cs) = ofDigits 0 cs := by
  rw [ofDigits_eq, ofDigits_eq, Nat.ofDigitChars_append, zeros, Nat.ofDigitChars_replicate_zero,
    Nat.mul_zero]

/-- Each zero behind multiplies by ten. -/
theorem ofDigits_append_zeros (cs : List Char) (k : ℕ) :
    ofDigits 0 (cs ++ zeros k) = ofDigits 0 cs * 10 ^ k := by
  rw [ofDigits_eq, ofDigits_eq, Nat.ofDigitChars_append, zeros, Nat.ofDigitChars_replicate_zero,
    Nat.mul_comm]

theorem digits_ne_nil (n : ℕ) : digits n ≠ [] :=
  Nat.toDigits_ne_nil

/-- Zeros behind the digits of a number are digits of its multiple. -/
theorem digits_append_zeros {n : ℕ} (h : n ≠ 0) (k : ℕ) :
    digits n ++ zeros k = digits (n * 10 ^ k) := by
  induction k with
  | zero => rw [Nat.pow_zero, Nat.mul_one, zeros, List.replicate_zero, List.append_nil]
  | succ k ih =>
    have hpos : 0 < n * 10 ^ k := Nat.mul_pos (Nat.pos_of_ne_zero h) (Nat.pow_pos (by decide))
    have hstep : digits (n * 10 ^ k) ++ ['0'] = digits (10 * (n * 10 ^ k)) :=
      Nat.toDigits_append_toDigits (d := 0) (by decide) hpos (by decide)
    have hzeros : zeros (k + 1) = zeros k ++ ['0'] := List.replicate_succ'
    rw [hzeros, ← List.append_assoc, ih, hstep, Nat.mul_left_comm, ← Nat.pow_succ']

theorem isDigit_eq (c : Char) : isDigit c = c.isDigit := by
  rw [isDigit, Char.isDigit]
  rfl

theorem isDigit_of_mem_digits {n : ℕ} {c : Char} (h : c ∈ digits n) : isDigit c = true := by
  rw [isDigit_eq]
  exact Nat.isDigit_of_mem_toDigits (by decide) (by decide) h

theorem isDigit_of_mem_zeros {k : ℕ} {c : Char} (h : c ∈ zeros k) : isDigit c = true := by
  rw [List.eq_of_mem_replicate h]
  decide

/-- Digits are printable and no letters. -/
theorem toNat_of_isDigit {c : Char} (h : isDigit c = true) : 48 ≤ c.toNat ∧ c.toNat ≤ 57 := by
  rw [isDigit, Bool.and_eq_true, decide_eq_true_eq, decide_eq_true_eq] at h
  exact h

theorem toLower_of_isDigit {c : Char} (h : isDigit c = true) : c.toLower = c := by
  have hcode := toNat_of_isDigit h
  refine dif_neg ?_
  rintro ⟨hA, -⟩
  have hle : 65 ≤ c.toNat := hA
  omega

/-! ## Parts of a number -/

/-- The sign is taken off characters that begin with a digit. -/
theorem takeSign_sign (negative : Bool) {c : Char} (h : isDigit c = true) (cs : List Char) :
    takeSign (Binary64.sign negative ++ c :: cs) = (negative, c :: cs) := by
  have hcode := toNat_of_isDigit h
  cases negative with
  | true => rfl
  | false =>
    rw [Binary64.sign, if_neg Bool.false_ne_true, List.nil_append, takeSign.eq_def]
    split
    · rename_i heq
      cases heq
      exact absurd hcode (by decide)
    · rename_i heq
      cases heq
      exact absurd hcode (by decide)
    · rfl

theorem takeWhile_isDigit {cs : List Char} (h : ∀ c ∈ cs, isDigit c = true) :
    cs.takeWhile isDigit = cs :=
  List.takeWhile_eq_self_iff.mpr h

theorem dropWhile_isDigit {cs : List Char} (h : ∀ c ∈ cs, isDigit c = true) :
    cs.dropWhile isDigit = [] :=
  List.dropWhile_eq_nil_iff.mpr h

theorem takeMantissa_whole {whole : List Char} (h : ∀ c ∈ whole, isDigit c = true) :
    takeMantissa whole = ((whole, []), []) := by
  rw [takeMantissa, takeWhile_isDigit h, dropWhile_isDigit h]

theorem takeMantissa_point {whole fraction : List Char} (h : ∀ c ∈ whole, isDigit c = true)
    (h' : ∀ c ∈ fraction, isDigit c = true) :
    takeMantissa (whole ++ '.' :: fraction) = ((whole, fraction), []) := by
  have hpoint : ¬ isDigit '.' = true := by decide
  rw [takeMantissa, List.takeWhile_append_of_pos h, List.dropWhile_append_of_pos h,
    List.takeWhile_cons_of_neg hpoint, List.dropWhile_cons_of_neg hpoint]
  simp only [List.append_nil, takeWhile_isDigit h', dropWhile_isDigit h']

end Decimal

/-! ## Floating point numbers -/

namespace Binary64

open Decimal

/-- What begins with a digit is no word, so it is a mantissa and a power of ten. -/
theorem readUnsigned?_of_isDigit (negative : Bool) {c : Char} (h : isDigit c = true)
    (cs : List Char) :
    readUnsigned? negative (c :: cs) =
      if (takeMantissa (c :: cs)).1.1 = [] ∧ (takeMantissa (c :: cs)).1.2 = [] then
        none
      else
        (readExponent? (takeMantissa (c :: cs)).2).map
          (nearestOf negative (takeMantissa (c :: cs)).1.1 (takeMantissa (c :: cs)).1.2) := by
  have hcode := toNat_of_isDigit h
  have hn : c ≠ 'n' := fun heq => by
    rw [heq] at hcode
    exact absurd hcode (by decide)
  have hi : c ≠ 'i' := fun heq => by
    rw [heq] at hcode
    exact absurd hcode (by decide)
  simp only [readUnsigned?, List.map_cons, toLower_of_isDigit h, List.cons.injEq, hn, hi,
    false_and, or_self, if_false]

/-- A sign and digits are read as the number that the digits spell. -/
theorem read?_whole (negative : Bool) {whole : List Char} (hne : whole ≠ [])
    (h : ∀ c ∈ whole, isDigit c = true) :
    read? (sign negative ++ whole) = some (nearestOf negative whole [] 0) := by
  cases whole with
  | nil => exact absurd rfl hne
  | cons c whole =>
    have hc := h c List.mem_cons_self
    rw [read?, takeSign_sign negative hc]
    simp only [readUnsigned?_of_isDigit negative hc, takeMantissa_whole h, List.cons_ne_nil,
      false_and, if_false]
    rfl

/-- What is read as a whole number is a sign and digits, and also read as the number that they
spell. -/
theorem read?_of_integerRead? {cs : List Char} {i : Int64} (h : Integer.read? cs = some i) :
    ∃ negative whole, read? cs = some (nearestOf negative whole [] 0) ∧
      i.toInt = if negative then -(ofDigits 0 whole : ℤ) else ofDigits 0 whole := by
  rw [Integer.read?] at h
  rw [read?]
  cases hsign : takeSign cs with
  | mk negative whole =>
    simp only [hsign] at h ⊢
    split at h
    · rename_i hwhole
      have hdigit : ∀ c ∈ whole, isDigit c = true := List.all_eq_true.mp hwhole.2
      refine ⟨negative, whole, ?_, Integer.toInt_of_ofInt? h⟩
      cases whole with
      | nil => exact absurd rfl hwhole.1
      | cons c whole =>
        rw [readUnsigned?_of_isDigit negative (hdigit c List.mem_cons_self),
          takeMantissa_whole hdigit]
        rfl
    · cases h

/-- What is read as a whole number is read as a number. -/
theorem exists_of_integerRead? {cs : List Char} {i : Int64} (h : Integer.read? cs = some i) :
    ∃ x, read? cs = some x := by
  obtain ⟨negative, whole, hread, -⟩ := read?_of_integerRead? h
  exact ⟨_, hread⟩

/-- A sign and digits around a point are read as the number that they spell. -/
theorem read?_point (negative : Bool) {whole fraction : List Char} (hne : whole ≠ [])
    (h : ∀ c ∈ whole, isDigit c = true) (h' : ∀ c ∈ fraction, isDigit c = true) :
    read? (sign negative ++ (whole ++ '.' :: fraction))
      = some (nearestOf negative whole fraction 0) := by
  have hmantissa := takeMantissa_point h h'
  cases whole with
  | nil => exact absurd rfl hne
  | cons c whole =>
    have hc := h c List.mem_cons_self
    rw [List.cons_append] at hmantissa ⊢
    rw [read?, takeSign_sign negative hc]
    simp only [readUnsigned?_of_isDigit negative hc, hmantissa, List.cons_ne_nil, false_and,
      if_false]
    rfl

/-- The text is made of digits before a point and behind it; no point stands without the latter. -/
structure IsNumeral (text whole fraction : List Char) : Prop where
  text_eq : text = whole ++ if fraction = [] then [] else '.' :: fraction
  whole_ne_nil : whole ≠ []
  isDigit_of_mem : ∀ c ∈ whole ++ fraction, isDigit c = true

namespace IsNumeral

variable {text whole fraction : List Char}

/-- A sign and a numeral are read as the number that the digits spell. -/
theorem read?_sign (h : IsNumeral text whole fraction) (negative : Bool) :
    read? (sign negative ++ text) = some (nearestOf negative whole fraction 0) := by
  have hwhole : ∀ c ∈ whole, isDigit c = true := fun c hc =>
    h.isDigit_of_mem c (List.mem_append_left _ hc)
  have hfraction : ∀ c ∈ fraction, isDigit c = true := fun c hc =>
    h.isDigit_of_mem c (List.mem_append_right _ hc)
  rw [h.text_eq]
  split
  · rename_i hnil
    rw [List.append_nil, hnil, read?_whole negative h.whole_ne_nil hwhole]
  · exact read?_point negative h.whole_ne_nil hwhole hfraction

/-- A numeral begins with a digit. -/
theorem exists_cons (h : IsNumeral text whole fraction) :
    ∃ c cs, text = c :: cs ∧ isDigit c = true := by
  have hne := h.whole_ne_nil
  have hdigit := h.isDigit_of_mem
  rw [h.text_eq]
  cases whole with
  | nil => exact absurd rfl hne
  | cons c whole => exact ⟨c, _, rfl, hdigit c (List.mem_append_left _ List.mem_cons_self)⟩

/-- The characters of a numeral are digits and the point. -/
theorem isDigit_or_eq_point (h : IsNumeral text whole fraction) {c : Char} (hc : c ∈ text) :
    isDigit c = true ∨ c = '.' := by
  rw [h.text_eq, List.mem_append] at hc
  rcases hc with hc | hc
  · exact Or.inl (h.isDigit_of_mem c (List.mem_append_left _ hc))
  · split at hc
    · cases hc
    · rcases List.mem_cons.mp hc with hc | hc
      · exact Or.inr hc
      · exact Or.inl (h.isDigit_of_mem c (List.mem_append_right _ hc))

end IsNumeral

end Binary64

/-! ## Whole numbers -/

namespace Integer

/-- The digits of a whole number are its sign and the digits of its absolute value. -/
theorem digits_eq (n : ℤ) : digits n = Binary64.sign (n < 0) ++ Decimal.digits n.natAbs := by
  rw [digits, Binary64.sign]
  by_cases h : n < 0
  · rw [if_pos h, if_pos (decide_eq_true h)]
    rfl
  · rw [if_neg h, if_neg (by simpa using h)]
    rfl

/-- A whole number of 64 bits fits. -/
theorem ofInt?_toInt (i : Int64) : ofInt? i.toInt = some i := by
  rw [ofInt?, if_pos ⟨i.minValue_le_toInt, i.toInt_le⟩, Int64.ofInt_toInt]

/-- The digits of a whole number of 64 bits are read as it. -/
theorem read?_digits (i : Int64) : read? (digits i.toInt) = some i := by
  have hdigit : ∀ c ∈ Decimal.digits i.toInt.natAbs, Decimal.isDigit c = true :=
    fun c => Decimal.isDigit_of_mem_digits
  have hvalue := Decimal.ofDigits_digits i.toInt.natAbs
  have hne := Decimal.digits_ne_nil i.toInt.natAbs
  rw [digits_eq]
  generalize Decimal.digits i.toInt.natAbs = ds at hdigit hvalue hne
  cases ds with
  | nil => exact absurd rfl hne
  | cons d ds =>
    have hall : (d :: ds).all Decimal.isDigit = true := List.all_eq_true.mpr hdigit
    have hsigned : (if decide (i.toInt < 0) = true then -(i.toInt.natAbs : ℤ) else i.toInt.natAbs)
        = i.toInt := by
      by_cases hneg : i.toInt < 0
      · rw [decide_eq_true hneg, if_pos rfl]
        omega
      · rw [decide_eq_false hneg, if_neg Bool.false_ne_true]
        omega
    rw [read?, Decimal.takeSign_sign _ (hdigit d List.mem_cons_self)]
    simp only [hne, hall, ne_eq, not_false_eq_true, true_and, if_true, hvalue, hsigned,
      ofInt?_toInt]

end Integer
end TableShell
