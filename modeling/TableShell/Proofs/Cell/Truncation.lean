import TableShell.Proofs.Cell.Coercion
import TableShell.Proofs.Number.Rounding

/-!
# Texts in columns of whole numbers

A text stands for a whole number if it spells one of 64 bits, or else a finite number, whose whole
part it is (`wholeNumber?`). In a column of whole numbers it becomes the number of 64 bits nearest
to that one, so it keeps its own number exactly if that fits (`cast_integer_spec`).
-/

namespace TableShell

/-! ## Whole parts -/

/-- The place of a finite number in ones, truncated toward zero. -/
def Binary64.wholePart? : Binary64 → Option ℤ
  | .finite negative m =>
    some ((if negative then -(m.units : ℤ) else m.units).tdiv Magnitude.one)
  | _ => none

/-- Truncating the magnitude truncates the number toward zero. -/
theorem Binary64.wholePart?_finite (negative : Bool) (m : Magnitude) :
    (finite negative m).wholePart? = some (if negative then -(m.floor : ℤ) else m.floor) := by
  have hfloor : (m.floor : ℤ) = (m.units : ℤ).tdiv Magnitude.one := by
    rw [Magnitude.floor]
    exact Int.ofNat_tdiv m.units Magnitude.one
  rw [wholePart?, hfloor]
  cases negative with
  | false => rfl
  | true => rw [if_pos rfl, if_pos rfl, Int.neg_tdiv]

/-- The whole number that a text stands for: the one of 64 bits that it spells, or else the whole
part of the finite number that it spells. -/
def Text.wholeNumber? (s : String) : Option ℤ :=
  match readInteger? s with
  | some i => some i.toInt
  | none => (readNumber? s).bind Binary64.wholePart?

open Text

namespace Integer

theorem least_eq : least = -2 ^ 63 :=
  Int64.toInt_minValue

theorem greatest_eq : greatest = 2 ^ 63 - 1 :=
  Int64.toInt_maxValue

theorem toInt_saturate (n : ℤ) : (saturate n).toInt = max least (min n greatest) := by
  have hleast := least_eq
  have hgreatest := greatest_eq
  rw [saturate]
  exact Int64.toInt_ofInt_of_le (by omega) (by omega)

/-- A number that fits is not moved. -/
theorem toInt_saturate_eq_self_iff {n : ℤ} :
    (saturate n).toInt = n ↔ least ≤ n ∧ n ≤ greatest := by
  have hleast := least_eq
  have hgreatest := greatest_eq
  rw [toInt_saturate]
  omega

theorem saturate_toInt (i : Int64) : saturate i.toInt = i :=
  Int64.toInt_inj.mp (toInt_saturate_eq_self_iff.mpr ⟨i.minValue_le_toInt, i.toInt_le⟩)

end Integer

namespace Cell

theorem truncate?_eq (x : Binary64) : truncate? x = x.wholePart?.map Integer.saturate := by
  cases x with
  | nan => rfl
  | infinite negative => rfl
  | finite negative m =>
    rw [Binary64.wholePart?_finite]
    rfl

/-- What spells no number spells no whole one. -/
theorem readInteger?_eq_none {s : String} (h : readNumber? s = none) : readInteger? s = none := by
  cases hinteger : readInteger? s with
  | none => rfl
  | some i =>
    obtain ⟨x, hx⟩ := Binary64.exists_of_integerRead? hinteger
    rw [readNumber?, hx] at h
    cases h

/-- What stands for a whole number has a value. -/
theorem meansMissing_of_wholeNumber? {s : String} {n : ℤ} (h : wholeNumber? s = some n) :
    meansMissing s = false := by
  rw [wholeNumber?] at h
  split at h
  · rename_i i hinteger
    obtain ⟨x, hread, hplace⟩ := Binary64.place?_of_integerRead? hinteger
    refine meansMissing_of_readNumber? hread ?_
    rintro rfl
    rw [Binary64.place?_ofInt (Integer.natAbs_toInt_le i)] at hplace
    cases hplace
  · obtain ⟨x, hread, hpart⟩ := Option.bind_eq_some_iff.mp h
    refine meansMissing_of_readNumber? hread ?_
    rintro rfl
    cases hpart

/-- A text in a column of whole numbers becomes the whole number nearest to the one that it stands
for, and stays as it is if it stands for none. -/
theorem cast_integer_eq (s : String) :
    cast s .integer =
      if meansMissing s then
        .missing
      else
        match wholeNumber? s with
        | some n => .integer (Integer.saturate n)
        | none => .text s := by
  rw [cast, wholeNumber?]
  cases hinteger : readInteger? s with
  | some i => simp only [Integer.saturate_toInt]
  | none =>
    have htruncate : (readNumber? s).bind truncate?
        = ((readNumber? s).bind Binary64.wholePart?).map Integer.saturate := by
      rw [Option.map_bind]
      exact congrArg _ (funext truncate?_eq)
    simp only [htruncate]
    cases (readNumber? s).bind Binary64.wholePart? <;> rfl

theorem cast_integer_of_wholeNumber? {s : String} {n : ℤ} (h : wholeNumber? s = some n) :
    cast s .integer = .integer (Integer.saturate n) := by
  rw [cast_integer_eq, meansMissing_of_wholeNumber? h, if_neg Bool.false_ne_true, h]

/-- A text becomes a whole number exactly if it stands for one, and then the nearest one of 64 bits;
it is kept exactly if it has a value and stands for none. The number is the one that the text stands
for exactly if that has 64 bits. -/
theorem cast_integer_spec (s : String) :
    (∀ i, cast s .integer = .integer i ↔
      ∃ n, wholeNumber? s = some n ∧ i.toInt = max Integer.least (min n Integer.greatest)) ∧
    (cast s .integer = .text s ↔ meansMissing s = false ∧ wholeNumber? s = none) ∧
    ∀ n, wholeNumber? s = some n →
      ((∃ i, cast s .integer = .integer i ∧ i.toInt = n) ↔
        Integer.least ≤ n ∧ n ≤ Integer.greatest) := by
  cases hwhole : wholeNumber? s with
  | some n =>
    have hcast := cast_integer_of_wholeNumber? hwhole
    refine ⟨fun i => ?_, ?_, ?_⟩
    · simp only [hcast, Option.some_inj, integer.injEq, exists_eq_left', ← Integer.toInt_saturate,
        Int64.toInt_inj]
      exact eq_comm
    · simp [hcast]
    · intro m hm
      obtain rfl : n = m := Option.some.inj hm
      rw [hcast, ← Integer.toInt_saturate_eq_self_iff]
      simp only [integer.injEq, exists_eq_left']
  | none =>
    have hcast : cast s .integer = if meansMissing s then .missing else .text s := by
      rw [cast_integer_eq, hwhole]
    refine ⟨fun i => ?_, ?_, fun n hn => by cases hn⟩
    · rw [hcast]
      split <;> simp
    · rw [hcast]
      cases meansMissing s <;> simp

theorem cast_integer_spec_fraction :
    wholeNumber? "-10.9" = some (-10) ∧
      ∃ i, cast "-10.9" .integer = .integer i ∧ i.toInt = -10 := by
  have hwhole : wholeNumber? "-10.9" = some (-10) := by decide +kernel
  exact ⟨hwhole, ((cast_integer_spec "-10.9").2.2 (-10) hwhole).mpr (by decide)⟩

/-- The first number beyond 64 bits is moved back to the greatest within. -/
theorem first_beyond_becomes_greatest :
    let s := "9223372036854775808"
    wholeNumber? s = some 9223372036854775808 ∧ Integer.greatest < 9223372036854775808 ∧
      cast s .integer = .integer 9223372036854775807 ∧ cast s .integer ≠ .text s := by
  decide +kernel

end Cell
end TableShell
