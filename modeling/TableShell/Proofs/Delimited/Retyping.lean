import TableShell.Proofs.Delimited.Printing

/-!
# The type of a column that got more cells

A column is loaded with the type that all its cells show together. Once cells were appended, that is
the type it had exactly if the new ones lie within it. Only two kinds of columns cannot rely on
their old cells: floating point numbers that are all written like whole ones, and texts that all
mean no value. `Retains` spells this out for each type, and `settled_append_eq_iff` says that it is
so.
-/

namespace TableShell
namespace Delimited

open Text ColumnType

/-- A column of the type with the old cells is loaded with that type again, once the new cells stand
behind them. -/
def Retains (type : ColumnType) (old new : List Cell) : Prop :=
  match type with
  | .integer => ∀ cell ∈ new, cell.type ≠ .text
  | .float => (∀ cell ∈ new, cell.type ≠ .text) ∧
      ∃ x, .float x ∈ old ++ new ∧ readInteger? (Cell.float x).display = none
  | .boolean => ∀ cell ∈ new, cell.type = .text → shownType cell = .boolean
  | .text => (∃ cell ∈ old, shownType cell ≠ .unknown) ∨
      (mergeAll (new.map shownType)).settled = .text
  | .unknown => True

/-! ## Old cells -/

section Loaded

variable {delimiter : Char} {s : String} {t : Table} {j : ℕ} {column : Column}

theorem columns_ne_nil_of_read (h : read delimiter s = .ok t) : t.columns ≠ [] := by
  obtain ⟨names, rows, rfl, hnames, -, -⟩ := exists_tableOf_of_read h
  rw [← List.length_pos_iff, length_columns_tableOf, List.length_pos_iff]
  exact hnames

/-- The cells of a loaded column are those of fields, whose types lie within that of the column. -/
theorem exists_field_of_mem_cellsAt (h : read delimiter s = .ok t)
    (hcolumn : t.columns[j]? = some column) {cell : Cell} (hcell : cell ∈ t.cellsAt j) :
    ∃ f : Field, column.type ≠ .unknown ∧ Within f.type column.type ∧
      cell = f.cell column.type := by
  obtain ⟨row, hrow, hj⟩ := List.mem_filterMap.mp hcell
  obtain ⟨i, hi⟩ := List.mem_iff_getElem?.mp hrow
  have hat : cellAt? t i j = some cell := by
    rw [cellAt?, hi]
    exact hj
  obtain ⟨column', f, hcolumn', htype, hwithin, hfield⟩ := exists_field_of_cellAt? h hat
  rw [hcolumn] at hcolumn'
  cases hcolumn'
  exact ⟨f, htype, hwithin, hfield⟩

/-- What a loaded cell shows lies within the type of its column. -/
theorem within_shownType (h : read delimiter s = .ok t) (hcolumn : t.columns[j]? = some column)
    {cell : Cell} (hcell : cell ∈ t.cellsAt j) : Within (shownType cell) column.type := by
  obtain ⟨f, htype, hwithin, rfl⟩ := exists_field_of_mem_cellsAt h hcolumn hcell
  by_cases hfloat : column.type = .float
  · rw [hfloat] at hwithin ⊢
    rw [within_float_iff]
    exact (shownType_cell_float hwithin).imp id And.left
  · rw [shownType_cell htype hfloat hwithin]
    exact hwithin

/-- Together, the cells of a loaded column show its type, unless it is one of floating point
numbers. -/
theorem settled_shownType (h : read delimiter s = .ok t) (hcolumn : t.columns[j]? = some column)
    (hrows : t.rows ≠ []) (hfloat : column.type ≠ .float) :
    (mergeAll ((t.cellsAt j).map shownType)).settled = column.type := by
  obtain ⟨names, rows, rfl, -, -, -⟩ := exists_tableOf_of_read h
  have hj : j < names.length := by
    rw [← length_columns_tableOf names rows]
    exact (List.getElem?_eq_some_iff.mp hcolumn).1
  rw [columns_tableOf hj] at hcolumn
  cases hcolumn
  have hsame : reloadedType (tableOf names rows) j = columnType rows j :=
    (reloadedType_tableOf hj).mpr fun h => absurd h hfloat
  rwa [reloadedType_eq, List.isEmpty_eq_false_iff.mpr hrows, if_neg Bool.false_ne_true] at hsame

end Loaded

/-! ## New cells -/

section Appended

variable {type : ColumnType} {cell : Cell}

/-- The cell is one that appending can put in a column of the type: a text that was cast, or the
default. -/
def IsAppended (type : ColumnType) (cell : Cell) : Prop :=
  (∃ s, cell = Cell.cast s type) ∨ cell = type.defaultCell

/-- An appended cell is missing, a value of its type, or a text that is no word for a missing
value; an empty text only in a column of texts. -/
theorem IsAppended.cases (h : IsAppended type cell) (htype : type ≠ .unknown) :
    cell = .missing ∨ (cell.IsValue ∧ cell.type = type) ∨
      ∃ s, cell = .text s ∧ (meansMissing s = false ∧ Cell.cast s type = .text s ∨ type = .text) := by
  rcases h with ⟨s, rfl⟩ | rfl
  · rcases Cell.cast_cases s htype with ⟨hcast, -⟩ | ⟨hmeans, hcast | hvalue⟩
    · exact Or.inl hcast
    · exact Or.inr (Or.inr ⟨s, hcast, Or.inl ⟨hmeans, hcast⟩⟩)
    · exact Or.inr (Or.inl hvalue)
  · cases type with
    | integer => exact Or.inr (Or.inl ⟨trivial, rfl⟩)
    | float => exact Or.inr (Or.inl ⟨(by decide : Binary64.zero false ≠ .nan), rfl⟩)
    | boolean => exact Or.inr (Or.inl ⟨trivial, rfl⟩)
    | text => exact Or.inr (Or.inr ⟨"", rfl, Or.inr rfl⟩)
    | unknown => exact absurd rfl htype

/-- A text that is no word for a missing value shows a type. -/
theorem shownType_text_ne_unknown {s : String} (hmeans : meansMissing s = false) :
    shownType (.text s) ≠ .unknown := by
  intro hunknown
  have hmissing : meansMissing (Field.mk s true).text = true := by
    apply meansMissing_of_type_unknown
    · rfl
    · exact hunknown
  have hmissing' : meansMissing s = true := hmissing
  rw [hmeans] at hmissing'
  cases hmissing'

/-- A text that was kept among numbers shows something else. -/
theorem not_within_of_kept {s : String} (hmeans : meansMissing s = false)
    (hkept : Cell.cast s type = .text s) (htype : type = .integer ∨ type = .float) :
    ¬ Within (shownType (.text s)) type := by
  have hinteger : readInteger? s = none := by
    cases hread : readInteger? s with
    | none => rfl
    | some i =>
      -- what is read as a whole number would have been cast to one, or to its float
      exfalso
      rw [Cell.cast.eq_def, hmeans, if_neg Bool.false_ne_true] at hkept
      rcases htype with rfl | rfl
      · simp [hread] at hkept
      · obtain ⟨x, hx⟩ := Binary64.exists_of_integerRead? hread
        have hnumber : readNumber? s = some x := hx
        simp [hnumber] at hkept
  have hshown : shownType (.text s) = (Cell.infer s).type := rfl
  rw [hshown]
  rcases Cell.infer_cases s with ⟨i, -, hread⟩ | ⟨x, hinfer, hnumber, -⟩ | ⟨b, hinfer⟩ | hinfer |
    ⟨-, hnan⟩
  · rw [hinteger] at hread
    cases hread
  · rw [hinfer]
    rcases htype with rfl | rfl
    · exact (by decide : ¬ Within .float .integer)
    · rw [Cell.cast.eq_def, hmeans, if_neg Bool.false_ne_true] at hkept
      simp [hnumber] at hkept
  · rw [hinfer]
    exact not_within_of_not_numeric (Or.inl rfl) htype
  · rw [hinfer]
    exact not_within_of_not_numeric (Or.inr rfl) htype
  · rw [meansMissing, hnan, Bool.or_true] at hmeans
    cases hmeans

/-- Among numbers, an appended cell shows something else exactly if it is a text. -/
theorem IsAppended.within_iff (h : IsAppended type cell) (htype : type = .integer ∨ type = .float) :
    Within (shownType cell) type ↔ cell.type ≠ .text := by
  have hknown : type ≠ .unknown := by
    rcases htype with rfl | rfl <;> decide
  have htext : type ≠ .text := by
    rcases htype with rfl | rfl <;> decide
  rcases h.cases hknown with rfl | ⟨hvalue, rfl⟩ | ⟨s, rfl, ⟨hmeans, hkept⟩ | hnot⟩
  · exact iff_of_true (unknown_merge type) (by decide)
  · refine iff_of_true ?_ htext
    cases cell with
    | float x =>
      have hwithin : Within .integer .float ∧ Within .float .float := by decide
      rw [shownType_float hvalue]
      split
      · exact hwithin.1
      · exact hwithin.2
    | _ =>
      rw [shownType_of_isValue hvalue (by simp [Cell.type])]
      exact within_refl _
  · exact iff_of_false (not_within_of_kept hmeans hkept htype) (by simp [Cell.type])
  · exact absurd hnot htext

/-- Among truth values, an appended cell shows something else exactly if it is a text that is not
written like one; one between blanks is kept as text, and yet shows it. -/
theorem IsAppended.within_boolean_iff (h : IsAppended .boolean cell) :
    Within (shownType cell) .boolean ↔ (cell.type = .text → shownType cell = .boolean) := by
  rcases h.cases (by decide) with rfl | ⟨hvalue, htype⟩ | ⟨s, rfl, ⟨hmeans, -⟩ | hnot⟩
  · exact iff_of_true (unknown_merge _) (fun h => by cases h)
  · rw [shownType_of_isValue hvalue (by rw [htype]; decide), htype]
    exact iff_of_true (within_refl _) fun _ => rfl
  · have hknown := shownType_text_ne_unknown hmeans
    rw [ColumnType.within_boolean_iff]
    simp [hknown, Cell.type]
  · cases hnot

end Appended

/-! ## Old and new cells -/

variable {delimiter : Char} {s : String} {t : Table} {j : ℕ} {column : Column} {new : List Cell}

/-- A cell shows the type of floating point numbers exactly if it is one whose text is no whole
number of 64 bits, where no text shows that type. -/
theorem shownType_eq_float_iff {cell : Cell} (hnan : cell ≠ .float .nan)
    (htext : ∀ s, cell = .text s → shownType cell ≠ .float) :
    shownType cell = .float ↔ ∃ x, cell = .float x ∧ readInteger? (Cell.float x).display = none := by
  cases cell with
  | float x =>
    have hx : x ≠ .nan := fun h => hnan (congrArg Cell.float h)
    rw [shownType_float hx]
    cases hread : readInteger? (Cell.float x).display with
    | none => simp [hread]
    | some i => simp [hread]
  | text s =>
    have hnot := htext s rfl
    simp [hnot]
  | missing => simp [shownType, Cell.isMissing]
  | integer i =>
    have hvalue : (Cell.integer i).IsValue := trivial
    rw [shownType_of_isValue hvalue (by simp [Cell.type])]
    simp [Cell.type]
  | boolean b =>
    have hvalue : (Cell.boolean b).IsValue := trivial
    rw [shownType_of_isValue hvalue (by simp [Cell.type])]
    simp [Cell.type]

/-- In a column of floating point numbers, neither a loaded cell nor an appended one is a text that
shows that type. -/
theorem shownType_eq_float_iff_of_mem (h : read delimiter s = .ok t)
    (hcolumn : t.columns[j]? = some column) (htype : column.type = .float)
    (hnew : ∀ cell ∈ new, IsAppended .float cell) {cell : Cell}
    (hcell : cell ∈ t.cellsAt j ++ new) :
    shownType cell = .float ↔ ∃ x, cell = .float x ∧ readInteger? (Cell.float x).display = none := by
  rcases List.mem_append.mp hcell with hold | hadded
  · obtain ⟨f, hknown, hwithin, rfl⟩ := exists_field_of_mem_cellsAt h hcolumn hold
    rw [htype] at hwithin ⊢
    apply shownType_eq_float_iff (cell_ne_nan (by decide))
    intro s' htext hshows
    rcases shownType_cell_float hwithin with hinteger | ⟨-, x, hx, -⟩
    · rw [hshows] at hinteger
      exact absurd hinteger (by decide)
    · rw [htext] at hx
      cases hx
  · have happended := hnew cell hadded
    apply shownType_eq_float_iff
    · rintro rfl
      rcases happended.cases (by decide) with hmissing | ⟨hvalue, -⟩ | ⟨s', hs', -⟩
      · cases hmissing
      · exact hvalue rfl
      · cases hs'
    · intro s' htext hshows
      have hwithin : Within (shownType cell) .float := by
        rw [hshows]
        exact within_refl _
      rw [happended.within_iff (Or.inr rfl), htext] at hwithin
      exact hwithin rfl

/-- A column of floating point numbers needs one that is written as such, and no text. -/
theorem mergeAll_append_eq_float_iff (h : read delimiter s = .ok t)
    (hcolumn : t.columns[j]? = some column) (htype : column.type = .float)
    (hnew : ∀ cell ∈ new, IsAppended .float cell) :
    mergeAll ((t.cellsAt j ++ new).map shownType) = .float ↔ Retains .float (t.cellsAt j) new := by
  have hloaded : ∀ cell ∈ t.cellsAt j, Within (shownType cell) .float := by
    intro cell hcell
    rw [← htype]
    exact within_shownType h hcolumn hcell
  have hwithin : (∀ u ∈ (t.cellsAt j ++ new).map shownType, Within u .float) ↔
      ∀ cell ∈ new, cell.type ≠ .text := by
    rw [List.forall_mem_map, List.forall_mem_append, and_iff_right hloaded]
    exact forall₂_congr fun cell hcell => (hnew cell hcell).within_iff (Or.inr rfl)
  have hshows : .float ∈ (t.cellsAt j ++ new).map shownType ↔
      ∃ x, .float x ∈ t.cellsAt j ++ new ∧ readInteger? (Cell.float x).display = none := by
    rw [List.mem_map]
    constructor
    · rintro ⟨cell, hcell, hfloat⟩
      obtain ⟨x, rfl, hread⟩ :=
        (shownType_eq_float_iff_of_mem h hcolumn htype hnew hcell).mp hfloat
      exact ⟨x, hcell, hread⟩
    · rintro ⟨x, hcell, hread⟩
      refine ⟨_, hcell, ?_⟩
      exact (shownType_eq_float_iff_of_mem h hcolumn htype hnew hcell).mpr ⟨x, rfl, hread⟩
  rw [mergeAll_eq_float_iff, hwithin, hshows]
  rfl

/-- A column of texts needs an old cell that shows some type, or new ones that show texts by
themselves. -/
theorem settled_append_eq_text_iff {old : List Cell}
    (hold : (mergeAll (old.map shownType)).settled = .text) :
    (mergeAll ((old ++ new).map shownType)).settled = .text ↔ Retains .text old new := by
  rw [List.map_append]
  by_cases hknown : ∃ cell ∈ old, shownType cell ≠ .unknown
  · obtain ⟨cell, hcell, hshows⟩ := hknown
    have htext : mergeAll (old.map shownType) = .text := by
      rcases settled_eq_text_iff.mp hold with hunknown | htext
      · have hwithin := within_mergeAll (List.mem_map_of_mem (f := shownType) hcell)
        rw [hunknown, within_unknown_iff] at hwithin
        exact absurd hwithin hshows
      · exact htext
    have hsame : mergeAll (old.map shownType ++ new.map shownType) = .text :=
      (mergeAll_append_eq_iff htext).mpr fun u _ => within_text u
    rw [hsame]
    exact iff_of_true rfl (Or.inl ⟨cell, hcell, hshows⟩)
  · have hunknown : mergeAll (old.map shownType) = .unknown := by
      rw [← within_unknown_iff, mergeAll_within_iff, List.forall_mem_map]
      intro cell hcell
      rw [within_unknown_iff]
      by_contra hshows
      exact hknown ⟨cell, hcell, hshows⟩
    -- the new cells speak alone
    have hrest : mergeAll (old.map shownType ++ new.map shownType)
        = mergeAll (new.map shownType) := by
      rw [mergeAll, List.foldl_append, ← mergeAll, hunknown, mergeAll]
    rw [hrest]
    exact (or_iff_right hknown).symm

/-- A loaded column with a cell, behind whose cells others were appended, has its type again exactly
if `Retains` says so. -/
theorem settled_append_eq_iff (h : read delimiter s = .ok t)
    (hcolumn : t.columns[j]? = some column) (hcells : t.cellsAt j ≠ [])
    (hnew : ∀ cell ∈ new, IsAppended column.type cell) :
    (mergeAll ((t.cellsAt j ++ new).map shownType)).settled = column.type ↔
      Retains column.type (t.cellsAt j) new := by
  obtain ⟨cell, hmem⟩ := List.exists_mem_of_ne_nil _ hcells
  have hrows : t.rows ≠ [] := by
    obtain ⟨row, hrow, -⟩ := List.mem_filterMap.mp hmem
    exact List.ne_nil_of_mem hrow
  have hold := settled_shownType h hcolumn hrows
  cases htype : column.type with
  | unknown =>
    obtain ⟨f, hknown, -⟩ := exists_field_of_mem_cellsAt h hcolumn hmem
    exact absurd htype hknown
  | integer =>
    rw [htype] at hold hnew
    have hinteger := (settled_eq_iff (by decide) (by decide)).mp (hold (by decide))
    rw [List.map_append, settled_eq_iff (by decide) (by decide), mergeAll_append_eq_iff hinteger,
      List.forall_mem_map]
    exact forall₂_congr fun cell hcell => (hnew cell hcell).within_iff (Or.inl rfl)
  | boolean =>
    rw [htype] at hold hnew
    have hboolean := (settled_eq_iff (by decide) (by decide)).mp (hold (by decide))
    rw [List.map_append, settled_eq_iff (by decide) (by decide), mergeAll_append_eq_iff hboolean,
      List.forall_mem_map]
    exact forall₂_congr fun cell hcell => (hnew cell hcell).within_boolean_iff
  | float =>
    rw [htype] at hnew
    rw [settled_eq_iff (by decide) (by decide)]
    exact mergeAll_append_eq_float_iff h hcolumn htype hnew
  | text =>
    rw [htype] at hold
    exact settled_append_eq_text_iff (hold (by decide))

end Delimited
end TableShell
