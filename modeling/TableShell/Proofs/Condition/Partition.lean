import TableShell.Proofs.Condition.Comparing
import TableShell.Proofs.Table.WellFormed

/-!
# Comparisons divide a column

A number in a cell stands in one order to the operand of a condition, and a comparison selects the
rows whose numbers stand in one of its orders (`chosen_condition`). So the rows below the operand,
those equal to it and those above it divide the rows with numbers among them, and each other
comparison selects two of the three (`dividesColumn_of_wellFormed`). This is proved of single cells
(`Cell.Meets`), since rows that are told by a property of their cells (`rowsWhere`) are united and
kept apart as the properties are.
-/

namespace TableShell

open Text Comparison

namespace Cell

/-- The cell holds a number. -/
def IsNumber (cell : Cell) : Prop :=
  cell.type = .integer ∨ cell.type = .float

/-- In which order the number of the cell stands to the operand, if the cell holds one. -/
def order? (cell : Cell) (operand : Binary64) : Option Ordering :=
  cell.number?.bind fun x => x.compare? operand

/-- A number stands in some order to an operand, and nothing else does. -/
theorem isNumber_iff_order? {cell : Cell} {operand : Binary64} (hcell : cell ≠ .float .nan)
    (hoperand : operand ≠ .nan) : cell.IsNumber ↔ ∃ order, cell.order? operand = some order := by
  obtain ⟨b, hb⟩ := Binary64.exists_place? hoperand
  have hordered : ∀ x : Binary64, x ≠ .nan → cell.number? = some x →
      ∃ order, cell.order? operand = some order := by
    intro x hx hnumber
    obtain ⟨a, ha⟩ := Binary64.exists_place? hx
    refine ⟨compare a b, ?_⟩
    rw [order?, hnumber, Option.bind_some, Binary64.compare?_of_place? ha hb]
  -- a whole number is rounded, which never gives what is not a number
  cases cell with
  | integer i =>
    exact iff_of_true (Or.inl rfl) (hordered _ (Binary64.ofUnits_ne_nan _ _ _) rfl)
  | float x =>
    exact iff_of_true (Or.inr rfl) (hordered x (fun hx => hcell (congrArg float hx)) rfl)
  | boolean b => simp [IsNumber, type, order?, number?]
  | text s => simp [IsNumber, type, order?, number?]
  | missing => simp [IsNumber, type, order?, number?]

/-- The number of the cell stands to the operand in an order that the comparison holds of. -/
def Meets (c : Comparison) (operand : Binary64) (cell : Cell) : Prop :=
  ∃ order, cell.order? operand = some order ∧ c.holds (some order) = true

theorem holds_compares_iff {cell : Cell} {operand : Binary64} (hcell : cell ≠ .float .nan)
    (hoperand : operand ≠ .nan) (c : Comparison) :
    (Predicate.compares c operand).holds cell = true ↔ cell.Meets c operand := by
  rw [Predicate.holds, Meets]
  cases hnumber : cell.number? with
  | none => simp [order?, hnumber]
  | some x =>
    have hnumeric : cell.IsNumber := by
      revert hnumber
      cases cell <;> simp [number?, IsNumber, type]
    obtain ⟨order, horder⟩ := (isNumber_iff_order? hcell hoperand).mp hnumeric
    have hcompare : x.compare? operand = some order := by
      rw [← horder, order?, hnumber, Option.bind_some]
    simp [hcompare, horder]

/-- A cell meets no two comparisons that never hold of one order. -/
theorem Meets.not {cell : Cell} {operand : Binary64} {c d : Comparison} (h : cell.Meets c operand)
    (hcd : ∀ order, c.holds (some order) = true → d.holds (some order) = false) :
    ¬ cell.Meets d operand := by
  obtain ⟨order, horder, hc⟩ := h
  rintro ⟨order', horder', hd⟩
  obtain rfl : order = order' := Option.some.inj (horder.symm.trans horder')
  rw [hcd order hc] at hd
  cases hd

/-- A comparison that holds of the orders of two others is met by the cells that meet either. -/
theorem meets_eq_or {operand : Binary64} {c d e : Comparison}
    (hcde : ∀ order, e.holds (some order) = (c.holds (some order) || d.holds (some order))) :
    Meets e operand = fun cell => cell.Meets c operand ∨ cell.Meets d operand := by
  funext cell
  simp only [Meets, hcde, Bool.or_eq_true, and_or_left, exists_or]

/-- Only a number meets a comparison. -/
theorem not_meets_of_not_isNumber {cell : Cell} {operand : Binary64} (hoperand : operand ≠ .nan)
    (h : ¬ cell.IsNumber) (c : Comparison) : ¬ cell.Meets c operand := by
  have hcell : cell ≠ .float .nan := by
    rintro rfl
    exact h (Or.inr rfl)
  rintro ⟨order, horder, -⟩
  exact h ((isNumber_iff_order? hcell hoperand).mpr ⟨order, horder⟩)

/-- A number is below the operand, equal to it, or above it. -/
theorem isNumber_iff_meets {cell : Cell} {operand : Binary64} (hcell : cell ≠ .float .nan)
    (hoperand : operand ≠ .nan) : (cell.Meets below operand ∨ cell.Meets equal operand) ∨
      cell.Meets above operand ↔ cell.IsNumber := by
  rw [isNumber_iff_order? hcell hoperand, Meets, Meets, Meets, ← exists_or, ← exists_or]
  refine exists_congr fun order => ?_
  cases order <;> simp [holds]

end Cell

namespace Table

/-- The rows that the condition on the column selects. -/
def chosen (t : Table) (column condition : String) : Set ℕ :=
  {i | t.Selects column condition i}

/-- The rows whose cell at the position has the property. -/
def rowsWhere (t : Table) (index : ℕ) (p : Cell → Prop) : Set ℕ :=
  {i | ∃ row cell, t.rows[i]? = some row ∧ row[index]? = some cell ∧ p cell}

/-! ## Rows and their cells -/

/-- A condition on a column selects rows by the cell under it. -/
theorem chosen_eq_rowsWhere {t : Table} {column : String} {index : ℕ} {type : ColumnType}
    (hindex : t.columnIndex? column = some index)
    (htype : t.columns[index]?.map Column.type = some type) (condition : String) :
    t.chosen column condition
      = t.rowsWhere index fun cell => (Predicate.ofCondition condition type).holds cell = true := by
  ext i
  rw [chosen, Set.mem_ofPred_eq, selects_iff_of_selection? (selection?_eq hindex htype condition),
    List.getElem?_map, rowsWhere, Set.mem_ofPred_eq]
  cases t.rows[i]? with
  | none => simp
  | some row => cases hcell : row[index]? <;> simp [rowSatisfies, hcell]

/-- No cell of a well-formed table holds what is not a number, so properties may differ there. -/
theorem rowsWhere_congr {t : Table} (h : t.WellFormed) {index : ℕ}
    (hindex : index < t.columns.length) {p q : Cell → Prop}
    (hpq : ∀ cell, cell ≠ .float .nan → (p cell ↔ q cell)) :
    t.rowsWhere index p = t.rowsWhere index q := by
  have hproper : ∀ {i : ℕ} {row : Row} {cell : Cell}, t.rows[i]? = some row →
      row[index]? = some cell → cell ≠ .float .nan := by
    intro i row cell hrow hcell
    have hfits := rowFits_iff.mp (h.rows_fit row (List.mem_of_getElem? hrow))
    exact (hfits.2 (List.getElem?_eq_getElem hindex) hcell).2
  ext i
  constructor
  · rintro ⟨row, cell, hrow, hcell, hp⟩
    exact ⟨row, cell, hrow, hcell, (hpq cell (hproper hrow hcell)).mp hp⟩
  · rintro ⟨row, cell, hrow, hcell, hq⟩
    exact ⟨row, cell, hrow, hcell, (hpq cell (hproper hrow hcell)).mpr hq⟩

theorem rowsWhere_union (t : Table) (index : ℕ) (p q : Cell → Prop) :
    t.rowsWhere index p ∪ t.rowsWhere index q = t.rowsWhere index fun cell => p cell ∨ q cell := by
  ext i
  constructor
  · rintro (⟨row, cell, hrow, hcell, hp⟩ | ⟨row, cell, hrow, hcell, hq⟩)
    · exact ⟨row, cell, hrow, hcell, Or.inl hp⟩
    · exact ⟨row, cell, hrow, hcell, Or.inr hq⟩
  · rintro ⟨row, cell, hrow, hcell, hp | hq⟩
    · exact Or.inl ⟨row, cell, hrow, hcell, hp⟩
    · exact Or.inr ⟨row, cell, hrow, hcell, hq⟩

/-- Properties that no cell has together belong to different rows. -/
theorem rowsWhere_inter {t : Table} {index : ℕ} {p q : Cell → Prop}
    (h : ∀ cell, p cell → ¬ q cell) : t.rowsWhere index p ∩ t.rowsWhere index q = ∅ := by
  rw [Set.eq_empty_iff_forall_notMem]
  rintro i ⟨⟨row, cell, hrow, hcell, hp⟩, row', cell', hrow', hcell', hq⟩
  rw [hrow] at hrow'
  cases hrow'
  rw [hcell] at hcell'
  cases hcell'
  exact h cell hp hq

/-! ## Rows by the order of their numbers -/

/-- A comparison with a number selects the rows whose cells meet it. -/
theorem chosen_condition {t : Table} {column operand : String} {index : ℕ} {type : ColumnType}
    {x : Binary64} (h : t.WellFormed) (hindex : t.columnIndex? column = some index)
    (htype : t.columns[index]?.map Column.type = some type) (hnumeric : type.isNumeric = true)
    (hoperand : readNumber? operand = some x) (hx : x ≠ .nan) (c : Comparison) :
    t.chosen column (c.condition operand) = t.rowsWhere index (Cell.Meets c x) := by
  rw [chosen_eq_rowsWhere hindex htype, Predicate.ofCondition_condition c hoperand hx hnumeric]
  exact rowsWhere_congr h (columnIndex?_lt hindex) fun cell hcell =>
    Cell.holds_compares_iff hcell hx c

/-- The comparisons with the operand divide the rows of the column by the order of their numbers,
and leave what is no number to the words for missing values. -/
structure DividesColumn (t : Table) (column operand : String) (index : ℕ) : Prop where
  below_equal : t.chosen column ("<" ++ operand) ∩ t.chosen column operand = ∅
  equal_above : t.chosen column operand ∩ t.chosen column (">" ++ operand) = ∅
  below_above : t.chosen column ("<" ++ operand) ∩ t.chosen column (">" ++ operand) = ∅
  numbers : t.chosen column ("<" ++ operand) ∪ t.chosen column operand
    ∪ t.chosen column (">" ++ operand) = t.rowsWhere index Cell.IsNumber
  atMost : t.chosen column ("<=" ++ operand)
    = t.chosen column ("<" ++ operand) ∪ t.chosen column operand
  atLeast : t.chosen column (">=" ++ operand)
    = t.chosen column operand ∪ t.chosen column (">" ++ operand)
  different : t.chosen column ("!=" ++ operand)
    = t.chosen column ("<" ++ operand) ∪ t.chosen column (">" ++ operand)
  others : ∀ c : Comparison, t.chosen column (c.condition operand)
    ∩ (t.rowsWhere index fun cell => cell = .missing ∨ cell.type = .text) = ∅
  missing : ∀ condition, SpellsMissing condition →
    t.chosen column condition = t.rowsWhere index fun cell => cell = .missing

/-- On a column of numbers, every number as an operand divides the rows of a well-formed table. -/
theorem dividesColumn_of_wellFormed {t : Table} {column operand : String} {index : ℕ}
    {type : ColumnType} {x : Binary64} (h : t.WellFormed)
    (hindex : t.columnIndex? column = some index)
    (htype : t.columns[index]?.map Column.type = some type)
    (hnumeric : type = .integer ∨ type = .float) (hoperand : readNumber? operand = some x)
    (hx : x ≠ .nan) : t.DividesColumn column operand index := by
  have htype' : type.isNumeric = true := by
    rcases hnumeric with rfl | rfl <;> rfl
  have hchosen := chosen_condition h hindex htype htype' hoperand hx
  have hbelow : t.chosen column ("<" ++ operand) = t.rowsWhere index (Cell.Meets below x) :=
    hchosen below
  have hequal : t.chosen column operand = t.rowsWhere index (Cell.Meets equal x) := hchosen equal
  have habove : t.chosen column (">" ++ operand) = t.rowsWhere index (Cell.Meets above x) :=
    hchosen above
  constructor
  case below_equal =>
    rw [hbelow, hequal]
    exact rowsWhere_inter fun cell hmeets => hmeets.not (by decide)
  case equal_above =>
    rw [hequal, habove]
    exact rowsWhere_inter fun cell hmeets => hmeets.not (by decide)
  case below_above =>
    rw [hbelow, habove]
    exact rowsWhere_inter fun cell hmeets => hmeets.not (by decide)
  case numbers =>
    rw [hbelow, hequal, habove, rowsWhere_union, rowsWhere_union]
    exact rowsWhere_congr h (columnIndex?_lt hindex) fun cell hcell =>
      Cell.isNumber_iff_meets hcell hx
  case atMost =>
    rw [hbelow, hequal, rowsWhere_union]
    exact (hchosen atMost).trans (congrArg (t.rowsWhere index) (Cell.meets_eq_or (by decide)))
  case atLeast =>
    rw [hequal, habove, rowsWhere_union]
    exact (hchosen atLeast).trans (congrArg (t.rowsWhere index) (Cell.meets_eq_or (by decide)))
  case different =>
    rw [hbelow, habove, rowsWhere_union]
    exact (hchosen different).trans (congrArg (t.rowsWhere index) (Cell.meets_eq_or (by decide)))
  case others =>
    intro c
    rw [hchosen c]
    refine rowsWhere_inter fun cell hmeets hother => ?_
    have hnot : ¬ cell.IsNumber := by
      rcases hother with rfl | htext
      · simp [Cell.IsNumber, Cell.type]
      · simp [Cell.IsNumber, htext]
    exact Cell.not_meets_of_not_isNumber hx hnot c hmeets
  case missing =>
    intro condition hcondition
    rw [chosen_eq_rowsWhere hindex htype, Predicate.ofCondition.eq_def,
      if_pos (meansMissing_iff.mpr hcondition)]
    congr 1
    funext cell
    cases cell <;> simp [Predicate.holds, Cell.isMissing]

/-- Levels of both signs and both zeros, beyond all bounds, missing, and not understood. -/
def levels : Table :=
  ⟨[⟨"day", .text⟩, ⟨"level", .float⟩],
    [[.text "Mon", .float (.ofInt (-3))], [.text "Tue", .float (.zero true)],
      [.text "Wed", .float (.zero false)], [.text "Thu", .missing],
      [.text "Fri", .text "high"], [.missing, .float (.infinite false)]]⟩

theorem wellFormed_levels : levels.WellFormed where
  nodup_names := by decide
  rows_fit := by
    unfold levels RowFits CellFits
    decide +kernel
  types_known := by decide

theorem dividesColumn_levels :
    readNumber? " -0.0" = some (.zero true) ∧ levels.DividesColumn "level" " -0.0" 1 ∧
      levels.Selects "level" " -0.0" 2 ∧ levels.Selects "level" "> -0.0" 5 ∧
      levels.Selects "level" "-NaN" 3 := by
  have hoperand : readNumber? " -0.0" = some (.zero true) := by decide +kernel
  have hdivides : levels.DividesColumn "level" " -0.0" 1 :=
    dividesColumn_of_wellFormed wellFormed_levels (by decide) (by decide) (Or.inr rfl) hoperand
      (by decide)
  exact ⟨hoperand, hdivides, ⟨_, rfl, by decide +kernel⟩, ⟨_, rfl, by decide +kernel⟩,
    ⟨_, rfl, by decide +kernel⟩⟩

end Table
end TableShell
