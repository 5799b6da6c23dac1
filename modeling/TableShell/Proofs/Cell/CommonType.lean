import Mathlib.Tactic.Common
import TableShell.Cell

/-!
# The common type of a column

`merge` is a join, and `mergeAll` the least upper bound of all types that were observed
(`mergeAll_within_iff`). From this follows when a whole column has a type.
-/

namespace TableShell
namespace ColumnType

/-- What was observed is no reason to leave the type. -/
def Within (s t : ColumnType) : Prop :=
  merge s t = t

instance (s t : ColumnType) : Decidable (Within s t) :=
  inferInstanceAs (Decidable (merge s t = t))

theorem within_refl (t : ColumnType) : Within t t :=
  merge_self t

theorem within_float_iff {t : ColumnType} :
    Within t .float ↔ Within t .integer ∨ t = .float := by
  cases t <;> decide

theorem within_text (t : ColumnType) : Within t .text := by
  cases t <;> decide

theorem within_unknown_iff {t : ColumnType} : Within t .unknown ↔ t = .unknown := by
  cases t <;> decide

theorem within_boolean_iff {t : ColumnType} :
    Within t .boolean ↔ t = .unknown ∨ t = .boolean := by
  cases t <;> decide

/-- Columns of numbers take in nothing but numbers. -/
theorem not_within_of_not_numeric {s t : ColumnType} (hs : s = .boolean ∨ s = .text)
    (ht : t = .integer ∨ t = .float) : ¬ Within s t := by
  rcases hs with rfl | rfl <;> rcases ht with rfl | rfl <;> decide

/-- Only columns of floating point numbers and of texts take in other types. -/
theorem eq_of_within {s t : ColumnType} (h : Within s t) (hs : s ≠ .unknown) (hfloat : t ≠ .float)
    (htext : t ≠ .text) : s = t := by
  revert h
  cases s <;> cases t <;> first | exact fun _ => rfl | contradiction | decide

/-- The join is the least upper bound of two types. -/
theorem merge_within_iff {s t u : ColumnType} :
    Within (merge s t) u ↔ Within s u ∧ Within t u := by
  cases s <;> cases t <;> cases u <;> decide

theorem within_antisymm {s t : ColumnType} (h : Within s t) (h' : Within t s) : s = t := by
  rw [Within] at h h'
  rw [← h', merge_comm, h]

variable {types : List ColumnType}

theorem foldl_merge_within_iff {start u : ColumnType} :
    Within (types.foldl merge start) u ↔ Within start u ∧ ∀ t ∈ types, Within t u := by
  induction types generalizing start with
  | nil => simp
  | cons t types ih =>
    rw [List.foldl_cons, ih, merge_within_iff, List.forall_mem_cons, and_assoc]

/-- The common type is the least upper bound of all types. -/
theorem mergeAll_within_iff {u : ColumnType} :
    Within (mergeAll types) u ↔ ∀ t ∈ types, Within t u := by
  have hunknown : Within .unknown u := unknown_merge u
  rw [mergeAll, foldl_merge_within_iff]
  exact and_iff_right hunknown

theorem within_mergeAll {t : ColumnType} (h : t ∈ types) : Within t (mergeAll types) :=
  mergeAll_within_iff.mp (within_refl _) t h

/-- The common type depends on nothing but which types were observed: neither on their order, nor on
how often, nor on what showed none. -/
theorem mergeAll_congr {types' : List ColumnType}
    (h : ∀ t, t ≠ .unknown → (t ∈ types ↔ t ∈ types')) : mergeAll types = mergeAll types' := by
  have hle : ∀ {xs ys : List ColumnType}, (∀ t, t ≠ .unknown → t ∈ xs → t ∈ ys) →
      Within (mergeAll xs) (mergeAll ys) := by
    intro xs ys hsub
    rw [mergeAll_within_iff]
    intro t ht
    by_cases hunknown : t = .unknown
    · rw [hunknown]
      exact unknown_merge _
    · exact within_mergeAll (hsub t hunknown ht)
  exact within_antisymm (hle fun t ht => (h t ht).mp) (hle fun t ht => (h t ht).mpr)

/-- More types leave the common one as it was exactly if they lie within it. -/
theorem mergeAll_append_eq_iff {more : List ColumnType} {t : ColumnType} (h : mergeAll types = t) :
    mergeAll (types ++ more) = t ↔ ∀ u ∈ more, Within u t := by
  constructor
  · intro hsame u hu
    rw [← hsame]
    exact within_mergeAll (List.mem_append_right types hu)
  · intro hmore
    apply within_antisymm
    · rw [mergeAll_within_iff]
      intro u hu
      rcases List.mem_append.mp hu with hold | hnew
      · rw [← h]
        exact within_mergeAll hold
      · exact hmore u hnew
    · rw [← h, mergeAll_within_iff]
      intro u hu
      exact within_mergeAll (List.mem_append_left more hu)

/-- A column is one of floating point numbers if it has one, and nothing but numbers. -/
theorem mergeAll_eq_float_iff :
    mergeAll types = .float ↔ (∀ t ∈ types, Within t .float) ∧ .float ∈ types := by
  constructor
  · intro h
    have hwithin : ∀ t ∈ types, Within t .float := fun t ht => h ▸ within_mergeAll ht
    refine ⟨hwithin, ?_⟩
    by_contra hnot
    have hinteger : Within (mergeAll types) .integer := by
      rw [mergeAll_within_iff]
      intro t ht
      rcases within_float_iff.mp (hwithin t ht) with hinteger | rfl
      · exact hinteger
      · exact absurd ht hnot
    rw [h] at hinteger
    exact absurd hinteger (by decide)
  · rintro ⟨hwithin, hmem⟩
    exact within_antisymm (mergeAll_within_iff.mpr hwithin) (within_mergeAll hmem)

theorem Within.settled {s t : ColumnType} (h : Within s t) : Within s t.settled := by
  revert h
  cases s <;> cases t <;> decide

/-- Settling gives texts the columns of no type, and nothing else. -/
theorem settled_eq_iff {t u : ColumnType} (hu : u ≠ .unknown) (htext : u ≠ .text) :
    settled t = u ↔ t = u := by
  revert hu htext
  cases t <;> cases u <;> decide

theorem settled_eq_text_iff {t : ColumnType} : settled t = .text ↔ t = .unknown ∨ t = .text := by
  cases t <;> decide

theorem settled_ne_unknown (t : ColumnType) : settled t ≠ .unknown := by
  cases t <;> decide

end ColumnType
end TableShell
