import TableShell.Proofs.Cell.Coercion

/-!
# Casting what a column shows

Whatever text a cell was cast from, the text that shows it is cast to the same cell again
(`cast_display_cast`), so editing a cell and leaving its text alone changes nothing. The three kinds
of cells come back for three reasons: the mark of a missing cell is a word for a missing value, a
text that did not fit its column is shown as it is, and a value reads back from its digits.
-/

namespace TableShell
namespace Cell

open Text

/-- The mark of a missing cell means that there is no value, in a column of any type. -/
theorem cast_missingMark (type : ColumnType) : cast missingMark type = missing := by
  have hmark : meansMissing missingMark = true := by decide
  rw [cast.eq_def, if_pos hmark]

/-- Whatever text goes into a column of a known type, the cell that it becomes is got back when the
text that shows it goes into the column. -/
theorem cast_display_cast (s : String) {type : ColumnType} (h : type ≠ .unknown) :
    cast (cast s type).display type = cast s type := by
  rcases cast_cases s h with ⟨hmissing, -⟩ | ⟨-, hkept | ⟨hvalue, htype⟩⟩
  · rw [hmissing]
    exact cast_missingMark type
  · -- what did not fit does not fit again
    have hshown : (cast s type).display = s := by rw [hkept]; rfl
    rw [hshown]
  · have hback := cast_display hvalue
    rwa [htype] at hback

/-- A number with a fraction and blanks around it, shown as the whole number that it was cut to. -/
theorem cast_display_cast_fraction :
    ColumnType.integer ≠ .unknown ∧ (cast " 7.95e1 " .integer).display = "79" ∧
      cast "79" .integer = cast " 7.95e1 " .integer := by
  have hknown : ColumnType.integer ≠ .unknown := by decide
  have hshown : (cast " 7.95e1 " .integer).display = "79" := by decide +kernel
  refine ⟨hknown, hshown, ?_⟩
  rw [← hshown]
  exact cast_display_cast " 7.95e1 " hknown

/-- In a column without a type a great number comes back as a whole one. -/
example : cast (cast "1e16" .unknown).display .unknown ≠ cast "1e16" .unknown := by
  decide +kernel

end Cell
end TableShell
