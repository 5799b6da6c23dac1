import TableShell.Proofs.Cell.Truncation
import TableShell.Proofs.Condition.Comparing
import TableShell.Proofs.Text.Cutting

/-!
# A text as the condition on its own cell

A text is cast to a cell and, as a condition, read as a predicate, both by the type of the column.
`holds_cast_iff` says when the predicate holds of the cell: among texts and truth values always,
among numbers unless the text is a sign of a comparison in front of a number, and among whole
numbers unless it is a number that is not whole. Numbers beyond 64 bits are left out there.
-/

namespace TableShell

open Text

/-! ## Texts and patterns -/

namespace Predicate

theorem isInfix_trimStars (cs : List Char) : trimStars cs <:+: cs := by
  have hright : trimStars cs <+: cs.dropWhile (· = '*') := List.rdropWhile_prefix _ _
  exact hright.isInfix.trans (List.dropWhile_suffix _).isInfix

/-- A pattern fits itself: its stars stand for themselves, or for nothing. -/
theorem holds_ofPattern (s : String) : (ofPattern s).holds (.text s) = true := by
  unfold ofPattern
  simp only
  split
  · simp only [holds, holdsOfText, Cell.isMissing, Cell.searchText, Cell.display,
      String.toList_ofList, Bool.not_false, Bool.true_and]
    exact occursIn_iff_infix.mpr (isInfix_trimStars s.toList)
  · simp [holds, holdsOfText, Cell.isMissing, Cell.searchText, Cell.display, List.tail_suffix]
  · simp [holds, holdsOfText, Cell.isMissing, Cell.searchText, Cell.display, List.dropLast_prefix]
  · simp [holds, holdsOfText, Cell.isMissing, Cell.searchText, Cell.display]

theorem holds_isText (s : String) (ignoreCase : Bool) :
    (isText s ignoreCase).holds (.text s) = true := by
  cases ignoreCase <;> simp [holds, holdsOfText, Cell.isMissing, Cell.searchText, Cell.display]

end Predicate

/-! ## Signs in front of numbers -/

/-- The text is the sign of a comparison in front of a number. -/
def Text.SpellsComparison (s : String) : Prop :=
  ∃ (c : Comparison) (operand : String), c ≠ .equal ∧ s = c.condition operand ∧
    (readNumber? operand).isSome = true

/-- The number is finite and has no fraction. -/
def Binary64.IsWhole : Binary64 → Prop
  | finite _ m => m.isIntegral = true
  | _ => False

/-- The text, taken as a condition on a column of the type, selects the cell that it becomes there:
it means that there is no value, or it is, in a column of numbers, no comparison and, in one of
whole numbers, no number that is not whole. -/
def Text.FindsItself (s : String) (type : ColumnType) : Prop :=
  meansMissing s = true ∨
    (type.isNumeric = true → ¬ SpellsComparison s) ∧
      (type = .integer → ∀ x, readNumber? s = some x → x.IsWhole)

/-- Such a text is no number itself. -/
theorem Text.SpellsComparison.readNumber?_eq_none {s : String} (h : SpellsComparison s) :
    readNumber? s = none := by
  obtain ⟨c, operand, hc, rfl, -⟩ := h
  obtain ⟨mark, hmark, rest, hrest⟩ := Comparison.exists_toList_condition hc operand
  exact readNumber?_of_mem_marks hrest hmark

/-- Splitting takes a written sign off, or nothing. -/
theorem Comparison.split_cases {cs : List Char} {c : Comparison} {operand : List Char}
    (h : split cs = (c, operand)) :
    (c = equal ∧ operand = cs) ∨ (c ≠ equal ∧ cs = c.sign.toList ++ operand) := by
  unfold split at h
  simp only at h
  cases htried : written.findSome? fun comparison =>
      (dropPrefix? comparison.sign.toList cs).map fun operand => (comparison, operand) with
  | none =>
    rw [htried] at h
    cases h
    exact Or.inl ⟨rfl, rfl⟩
  | some found =>
    rw [htried, Option.getD_some] at h
    obtain ⟨comparison, hwritten, hfound⟩ := List.exists_of_findSome?_eq_some htried
    obtain ⟨rest, hrest, rfl⟩ := Option.map_eq_some_iff.mp hfound
    cases h
    have hsigns : ∀ c ∈ written, c ≠ equal := by decide
    exact Or.inr ⟨hsigns c hwritten, dropPrefix?_eq_some_iff.mp hrest⟩

namespace Predicate

theorem ofNumeric_of_readNumber? {s : String} {x : Binary64} (h : readNumber? s = some x) :
    ofNumeric s = compares .equal x :=
  ofNumeric_condition .equal h

theorem exists_ofNumeric_of_spellsComparison {s : String} (h : SpellsComparison s) :
    ∃ c x, ofNumeric s = compares c x := by
  obtain ⟨c, operand, -, rfl, hread⟩ := h
  obtain ⟨x, hx⟩ := Option.isSome_iff_exists.mp hread
  exact ⟨c, x, ofNumeric_condition c hx⟩

/-- What is neither a number nor a comparison is looked for as it is. -/
theorem ofNumeric_eq_isText {s : String} (h : readNumber? s = none) (h' : ¬ SpellsComparison s) :
    ofNumeric s = isText s false := by
  cases hsplit : Comparison.split s.toList with
  | mk c operand =>
    cases hread : Binary64.read? (trimChars operand) with
    | none => simp only [ofNumeric, hsplit, hread]
    | some x =>
      exfalso
      rcases Comparison.split_cases hsplit with ⟨-, rfl⟩ | ⟨hc, hs⟩
      · rw [readNumber?, hread] at h
        cases h
      · refine h' ⟨c, .ofList operand, hc, ?_, ?_⟩
        · rw [Comparison.condition_of_ne hc, ← String.toList_inj, hs, String.toList_append,
            String.toList_ofList]
        · rw [readNumber?, String.toList_ofList, hread]
          rfl

/-- A text that was kept among numbers is found by itself exactly if it is no comparison. -/
theorem holds_ofNumeric_text_iff {s : String} (h : readNumber? s = none) :
    (ofNumeric s).holds (.text s) = true ↔ ¬ SpellsComparison s := by
  by_cases hspells : SpellsComparison s
  · obtain ⟨c, x, hcompares⟩ := exists_ofNumeric_of_spellsComparison hspells
    rw [hcompares]
    exact iff_of_false (by simp [holds, Cell.number?]) (not_not.mpr hspells)
  · rw [ofNumeric_eq_isText h hspells]
    exact iff_of_true (holds_isText s false) hspells

end Predicate

/-! ## Whole numbers -/

namespace Binary64

/-- A number at the place of a whole number of 64 bits is whole: the infinities stand beyond. -/
theorem isWhole_of_place? {x : Binary64} {n : ℤ} (hn : n.natAbs ≤ 2 ^ 63)
    (h : x.place? = some (n * Magnitude.one)) : x.IsWhole := by
  have hrange := Magnitude.mul_one_lt_overflow hn
  cases x with
  | nan => cases h
  | infinite negative =>
    exfalso
    have hplace : (if negative then -(Magnitude.overflow : ℤ) else Magnitude.overflow)
        = n * Magnitude.one := Option.some.inj h
    revert hplace hrange
    generalize Magnitude.overflow = overflow
    generalize Magnitude.one = one
    intro hrange hplace
    have habs := congrArg Int.natAbs hplace
    rw [Int.natAbs_mul, Int.natAbs_natCast] at habs
    cases negative <;> simp at habs <;> omega
  | finite negative m =>
    have hplace : (if negative then -(m.units : ℤ) else m.units) = n * Magnitude.one :=
      Option.some.inj h
    have habs := congrArg Int.natAbs hplace
    have hunits : m.units = n.natAbs * Magnitude.one := by
      rw [Int.natAbs_mul, Int.natAbs_natCast] at habs
      cases negative <;> simpa using habs
    rw [IsWhole, Magnitude.isIntegral, hunits, Nat.mul_mod_left]
    rfl

/-- A magnitude without a fraction is a whole number that is its own rounding. -/
theorem roundUnits_floor {m : Magnitude} (h : m.isIntegral = true) :
    roundUnits m.floor 1 = m.floor := by
  have hround := roundUnits_of_representable m.representable
  rw [units_eq_floor_mul_one h, roundUnits_mul_one] at hround
  exact Nat.eq_of_mul_eq_mul_right Magnitude.one_pos hround

/-- A finite number stands at the place of its rounded whole part exactly if it is whole. -/
theorem place?_eq_rounded_iff {x : Binary64} {n : ℤ} (h : x.wholePart? = some n) :
    x.place? = some (Integer.rounded n * Magnitude.one) ↔ x.IsWhole := by
  cases x with
  | nan => cases h
  | infinite negative => cases h
  | finite negative m =>
    rw [wholePart?_finite, Option.some_inj] at h
    have hplace : (finite negative m).place? = some (Integer.rounded n * Magnitude.one)
        ↔ m.units = roundUnits m.floor 1 * Magnitude.one := by
      rw [← h, place?, Option.some_inj]
      generalize Magnitude.one = one
      cases negative with
      | false =>
        rw [if_neg Bool.false_ne_true, if_neg Bool.false_ne_true, Integer.rounded_natCast]
        omega
      | true =>
        rw [if_pos rfl, if_pos rfl, Integer.rounded_neg, Integer.rounded_natCast, Int.neg_mul]
        omega
    rw [hplace]
    constructor
    · intro hunits
      rw [IsWhole, Magnitude.isIntegral, hunits, Nat.mul_mod_left]
      rfl
    · intro hwhole
      rw [roundUnits_floor hwhole]
      exact units_eq_floor_mul_one hwhole

end Binary64

namespace Predicate

/-! ## Texts that find their cells -/

/-- What spells a number is no comparison. -/
theorem not_spellsComparison {s : String} {x : Binary64} (h : readNumber? s = some x) :
    ¬ SpellsComparison s := by
  intro hspells
  rw [hspells.readNumber?_eq_none] at h
  cases h

theorem ofCondition_of_isNumeric {s : String} {type : ColumnType} (h : meansMissing s = false)
    (htype : type.isNumeric = true) : ofCondition s type = ofNumeric s := by
  rw [ofCondition.eq_def, h, if_neg Bool.false_ne_true]
  cases type <;> first | rfl | cases htype

/-- Among floating point numbers, a text finds itself unless it is a comparison. -/
theorem holds_cast_float_iff {s : String} (h : meansMissing s = false) :
    (ofCondition s .float).holds (.cast s .float) = true ↔ ¬ SpellsComparison s := by
  have hcast : Cell.cast s .float = ((readNumber? s).map Cell.float).getD (.text s) := by
    rw [Cell.cast, h, if_neg Bool.false_ne_true]
  rw [ofCondition_of_isNumeric h rfl, hcast]
  cases hread : readNumber? s with
  | none => exact holds_ofNumeric_text_iff hread
  | some x =>
    have hx : x ≠ .nan := by
      rintro rfl
      rw [meansMissing, isNaN, hread, Bool.or_eq_false_iff] at h
      cases h.2
    obtain ⟨a, ha⟩ := Binary64.exists_place? hx
    rw [ofNumeric_of_readNumber? hread]
    refine iff_of_true ?_ (not_spellsComparison hread)
    show Comparison.equal.holds (x.compare? x) = true
    rw [Comparison.holds, decide_eq_true_eq, Binary64.compare?_eq_some_eq_iff]
    exact ⟨a, ha, ha⟩

/-- A whole number equals the operand that stands at its rounded place. -/
theorem holds_equal_integer_iff {x : Binary64} (k : Int64) :
    (compares .equal x).holds (.integer k) = true ↔
      x.place? = some (Integer.rounded k.toInt * Magnitude.one) := by
  have hplace := Binary64.place?_ofInt (Integer.natAbs_toInt_le k)
  show Comparison.equal.holds ((Binary64.ofInt k.toInt).compare? x) = true ↔ _
  rw [Comparison.holds, decide_eq_true_eq, Binary64.compare?_eq_some_eq_iff, hplace]
  simp only [Option.some_inj, exists_eq_left']

/-- What spells a whole number of 64 bits spells a whole one, at its rounded place. -/
theorem isWhole_of_readInteger? {s : String} {x : Binary64} {i : Int64}
    (hinteger : readInteger? s = some i) (hread : readNumber? s = some x) :
    x.IsWhole ∧ x.place? = some (Integer.rounded i.toInt * Magnitude.one) := by
  obtain ⟨y, hy, hplace⟩ := Binary64.place?_of_integerRead? hinteger
  obtain rfl : x = y := Option.some.inj (hread.symm.trans hy)
  rw [Binary64.place?_ofInt (Integer.natAbs_toInt_le i)] at hplace
  refine ⟨Binary64.isWhole_of_place? ?_ hplace, hplace⟩
  -- rounding does not lead beyond the power of two
  rw [Integer.natAbs_rounded, ← roundUnits_two_pow 63]
  exact roundUnits_mono (Integer.natAbs_toInt_le i)

/-- The whole number that a text stands for is rounded to the number that it spells exactly if that
is whole. -/
theorem place?_iff_of_wholeNumber? {s : String} {x : Binary64} {n : ℤ}
    (hread : readNumber? s = some x) (hwhole : wholeNumber? s = some n) :
    x.place? = some (Integer.rounded n * Magnitude.one) ↔ x.IsWhole := by
  rw [wholeNumber?] at hwhole
  cases hinteger : readInteger? s with
  | some i =>
    rw [hinteger, Option.some_inj] at hwhole
    obtain ⟨hx, hplace⟩ := isWhole_of_readInteger? hinteger hread
    rw [← hwhole]
    exact iff_of_true hplace hx
  | none =>
    rw [hinteger, hread] at hwhole
    exact Binary64.place?_eq_rounded_iff hwhole

/-- Among whole numbers, a text finds itself unless it is a comparison or a number that is not
whole. -/
theorem holds_cast_integer_iff {s : String} (h : meansMissing s = false)
    (hfits : ∀ n, wholeNumber? s = some n → Integer.least ≤ n ∧ n ≤ Integer.greatest) :
    (ofCondition s .integer).holds (.cast s .integer) = true ↔
      ¬ SpellsComparison s ∧ ∀ x, readNumber? s = some x → x.IsWhole := by
  rw [ofCondition_of_isNumeric h rfl, Cell.cast_integer_eq, h, if_neg Bool.false_ne_true]
  cases hread : readNumber? s with
  | none =>
    have hwhole : wholeNumber? s = none := by
      rw [wholeNumber?, Cell.readInteger?_eq_none hread, hread]
      rfl
    rw [hwhole, holds_ofNumeric_text_iff hread]
    simp
  | some x =>
    have hspells := not_spellsComparison hread
    rw [ofNumeric_of_readNumber? hread]
    cases hwhole : wholeNumber? s with
    | some n =>
      have hvalue := Integer.toInt_saturate_eq_self_iff.mpr (hfits n hwhole)
      show (compares .equal x).holds (.integer (Integer.saturate n)) = true ↔ _
      rw [holds_equal_integer_iff, hvalue, place?_iff_of_wholeNumber? hread hwhole]
      simp [hspells]
    | none =>
      -- only an infinity is kept as text
      have hfinite : ¬ x.IsWhole := by
        intro hx
        cases x with
        | nan => exact hx
        | infinite negative => exact hx
        | finite negative m =>
          rw [wholeNumber?] at hwhole
          cases hinteger : readInteger? s with
          | some i =>
            rw [hinteger] at hwhole
            cases hwhole
          | none =>
            rw [hinteger, hread] at hwhole
            cases hwhole
      refine iff_of_false (by simp [holds, Cell.number?]) fun hboth => hfinite (hboth.2 x rfl)

/-- A text finds the cell that it becomes exactly if it means that there is no value, or is, among
numbers, no comparison and, among whole numbers, no number that is not whole. -/
theorem holds_cast_iff {s : String} {type : ColumnType} (hknown : type ≠ .unknown)
    (hfits : type = .integer → ∀ n, wholeNumber? s = some n →
      Integer.least ≤ n ∧ n ≤ Integer.greatest) :
    (ofCondition s type).holds (.cast s type) = true ↔ FindsItself s type := by
  cases h : meansMissing s with
  | true =>
    have hcell : Cell.cast s type = .missing := by
      rw [Cell.cast.eq_def, h, if_pos rfl]
    rw [hcell, holds_missing, ofCondition.eq_def, h, if_pos rfl]
    exact iff_of_true rfl (Or.inl h)
  | false =>
    rw [FindsItself, h, or_iff_right Bool.false_ne_true]
    cases type with
    | unknown => exact absurd rfl hknown
    | integer =>
      rw [holds_cast_integer_iff h (hfits rfl)]
      simp [ColumnType.isNumeric]
    | float =>
      rw [holds_cast_float_iff h]
      simp [ColumnType.isNumeric]
    | text =>
      have hcell : Cell.cast s .text = .text s := by
        rw [Cell.cast, h, if_neg Bool.false_ne_true]
      rw [hcell, ofCondition, h, if_neg Bool.false_ne_true]
      exact iff_of_true (holds_ofPattern s) (by simp [ColumnType.isNumeric])
    | boolean =>
      refine iff_of_true ?_ (by simp [ColumnType.isNumeric])
      rw [Cell.cast, ofCondition, h, if_neg Bool.false_ne_true, if_neg Bool.false_ne_true]
      cases hread : readBool? s with
      | none => simp only [Option.map_none, Option.getD_none, holds_isText]
      | some b => simp [holds, Cell.bool?]

end Predicate

namespace Cell

/-! ## Columns that are typed by the text -/

/-- In a column of no numbers, every text finds itself. -/
theorem findsItself_of_not_numeric {s : String} {type : ColumnType}
    (h : type.isNumeric = false) : FindsItself s type := by
  refine Or.inr ⟨fun hnumeric => ?_, fun hinteger => ?_⟩
  · rw [h] at hnumeric
    cases hnumeric
  · rw [hinteger] at h
    cases h

theorem inferType_singleton {s : String} (h : meansMissing s = false) :
    inferType [s] = (infer s).type.settled := by
  simp [inferType, commonType, ColumnType.mergeAll, h]

/-- In a column that is typed by the text itself, the text stands for no number beyond 64 bits, and
finds its cell. -/
theorem findsItself_inferType (s : String) :
    FindsItself s (inferType [s]) ∧ (inferType [s] = .integer → ∀ n, wholeNumber? s = some n →
      Integer.least ≤ n ∧ n ≤ Integer.greatest) := by
  cases h : meansMissing s with
  | true =>
    have htype : inferType [s] = .text := by
      simp [inferType, commonType, ColumnType.mergeAll, ColumnType.settled, h]
    rw [htype]
    exact ⟨Or.inl h, fun hinteger => absurd hinteger (by decide)⟩
  | false =>
    rw [inferType_singleton h]
    rcases infer_cases s with ⟨i, hinfer, hinteger⟩ | ⟨x, hinfer, hread, -, -⟩ | ⟨b, hinfer⟩ |
      hinfer | ⟨-, hnan⟩
    · obtain ⟨x, hx⟩ := Binary64.exists_of_integerRead? hinteger
      have hread : readNumber? s = some x := hx
      refine ⟨Or.inr ⟨fun _ => Predicate.not_spellsComparison hread, fun _ y hy => ?_⟩, ?_⟩
      · exact (Predicate.isWhole_of_readInteger? hinteger hy).1
      · intro _ n hn
        rw [wholeNumber?, hinteger] at hn
        obtain rfl : i.toInt = n := Option.some.inj hn
        exact ⟨i.minValue_le_toInt, i.toInt_le⟩
    · have htype : (infer s).type.settled = .float := by rw [hinfer]; rfl
      rw [htype]
      exact ⟨Or.inr ⟨fun _ => Predicate.not_spellsComparison hread,
        fun hinteger => absurd hinteger (by decide)⟩, fun hinteger => absurd hinteger (by decide)⟩
    · have htype : (infer s).type.settled = .boolean := by rw [hinfer]; rfl
      rw [htype]
      exact ⟨findsItself_of_not_numeric (by decide), fun hinteger => absurd hinteger (by decide)⟩
    · have htype : (infer s).type.settled = .text := by rw [hinfer]; rfl
      rw [htype]
      exact ⟨findsItself_of_not_numeric (by decide), fun hinteger => absurd hinteger (by decide)⟩
    · rw [meansMissing, hnan, Bool.or_true] at h
      cases h

end Cell
end TableShell
