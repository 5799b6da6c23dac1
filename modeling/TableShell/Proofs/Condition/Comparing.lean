import TableShell.Effect
import TableShell.Proofs.Cell.Coercion
import TableShell.Proofs.Condition.Selection
import TableShell.Proofs.Number.Rounding

/-!
# Comparing whole numbers

A condition on a column of whole numbers is a sign and an operand (`Comparison.split_condition`).
Cell and operand are both rounded to 53 significant bits before they are compared, so a condition
means what it says exactly if the two numbers are not rounded to the same (`selects_integer_iff`).
-/

namespace TableShell

open Text

/-! ## The signs of comparisons -/

/-- The characters that the signs of comparisons are made of. -/
def Comparison.marks : List Char :=
  ['<', '>', '!', '=']

open Comparison

theorem Comparison.mem_marks_iff {c : Char} :
    c ∈ marks ↔ c = '<' ∨ c = '>' ∨ c = '!' ∨ c = '=' := by
  simp only [marks, List.mem_cons, List.not_mem_nil, or_false]

/-- No number begins like the sign of a comparison. -/
theorem Binary64.read?_cons_of_mem_marks {c : Char} (h : c ∈ marks) (cs : List Char) :
    read? (c :: cs) = none := by
  have hmark : c ≠ '-' ∧ c ≠ '+' ∧ c ≠ '.' ∧ c.toLower ≠ 'n' ∧ c.toLower ≠ 'i' ∧
      Decimal.isDigit c = false := by
    rcases mem_marks_iff.mp h with rfl | rfl | rfl | rfl <;> decide
  obtain ⟨hminus, hplus, hpoint, hn, hi, hdigit⟩ := hmark
  rw [read?, Decimal.takeSign_of_ne hminus hplus]
  simp only [readUnsigned?, List.map_cons, List.cons.injEq, hn, hi, false_and, or_self, if_false,
    Decimal.takeMantissa_of_not_digit hdigit hpoint, and_self, if_true]

/-- A text that begins like the sign of a comparison spells no number. -/
theorem readNumber?_of_mem_marks {s : String} {c : Char} {cs : List Char}
    (hs : s.toList = c :: cs) (h : c ∈ marks) : readNumber? s = none := by
  have hblank : isBlank c = false := by
    rcases mem_marks_iff.mp h with rfl | rfl | rfl | rfl <;> decide
  obtain ⟨rest, hrest⟩ := exists_trimChars_cons hblank cs
  rw [readNumber?, hs, hrest, Binary64.read?_cons_of_mem_marks h]

/-! ## Places that are compared -/

/-- A common positive factor does not change an order. -/
theorem compare_mul_right {m n one : ℤ} (hone : 0 < one) :
    compare (m * one) (n * one) = compare m n := by
  rcases lt_trichotomy m n with h | rfl | h
  · rw [compare_lt_iff_lt.mpr h, compare_lt_iff_lt.mpr (Int.mul_lt_mul_of_pos_right h hone)]
  · rw [compare_eq_iff_eq.mpr rfl, compare_eq_iff_eq.mpr rfl]
  · rw [compare_gt_iff_gt.mpr h, compare_gt_iff_gt.mpr (Int.mul_lt_mul_of_pos_right h hone)]

theorem Binary64.exists_place? {x : Binary64} (h : x ≠ nan) : ∃ a, x.place? = some a := by
  cases x with
  | nan => exact absurd rfl h
  | infinite negative => exact ⟨_, rfl⟩
  | finite negative m => exact ⟨_, rfl⟩

theorem Binary64.compare?_of_place? {x y : Binary64} {a b : ℤ} (hx : x.place? = some a)
    (hy : y.place? = some b) : x.compare? y = some (compare a b) := by
  rw [compare?, hx, hy]

/-- Numbers are equal if they stand at the same place. -/
theorem Binary64.compare?_eq_some_eq_iff {x y : Binary64} :
    x.compare? y = some .eq ↔ ∃ a, x.place? = some a ∧ y.place? = some a := by
  rw [compare?]
  split
  · rename_i a b hx hy
    rw [Option.some_inj, compare_eq_iff_eq, hx, hy]
    simp [eq_comm]
  · rename_i hnone
    refine iff_of_false (by simp) ?_
    rintro ⟨a, hx, hy⟩
    exact hnone a a hx hy

/-! ## Conditions that compare -/

namespace Comparison

/-- The comparison holds of two whole numbers. -/
def Relates : Comparison → ℤ → ℤ → Prop
  | atLeast, m, n => n ≤ m
  | atMost, m, n => m ≤ n
  | different, m, n => m ≠ n
  | above, m, n => n < m
  | below, m, n => m < n
  | equal, m, n => m = n

/-- The condition that makes the comparison with the operand; equality needs no sign. -/
def condition : Comparison → String → String
  | equal, operand => operand
  | c, operand => c.sign ++ operand

theorem condition_of_ne {c : Comparison} (hc : c ≠ equal) (operand : String) :
    c.condition operand = c.sign ++ operand := by
  cases c <;> first | contradiction | rfl

theorem holds_compare (c : Comparison) (m n : ℤ) :
    c.holds (some (compare m n)) = true ↔ c.Relates m n := by
  rcases lt_trichotomy m n with h | rfl | h
  · have horder : compare m n = .lt := compare_lt_iff_lt.mpr h
    rw [horder]
    cases c <;> simp [holds, Relates] <;> omega
  · have horder : compare m m = .eq := compare_eq_iff_eq.mpr rfl
    rw [horder]
    cases c <;> simp [holds, Relates]
  · have horder : compare m n = .gt := compare_gt_iff_gt.mpr h
    rw [horder]
    cases c <;> simp [holds, Relates] <;> omega

/-- Rounding keeps how two numbers compare, unless it makes them equal. -/
theorem relates_rounded_iff {c : Comparison} {m n : ℤ}
    (h : Integer.rounded m = Integer.rounded n → m = n) :
    c.Relates (Integer.rounded m) (Integer.rounded n) ↔ c.Relates m n := by
  rcases lt_trichotomy m n with hlt | rfl | hlt
  · have hle := Integer.rounded_mono hlt.le
    have hne : Integer.rounded m ≠ Integer.rounded n := fun heq => hlt.ne (h heq)
    cases c <;> simp only [Relates] <;> omega
  · cases c <;> simp [Relates]
  · have hle := Integer.rounded_mono hlt.le
    have hne : Integer.rounded m ≠ Integer.rounded n := fun heq => hlt.ne' (h heq)
    cases c <;> simp only [Relates] <;> omega

/-- A text that begins with no sign of a comparison is the operand of an equality. -/
theorem split_of_readNumber? {s : String} {x : Binary64} (h : readNumber? s = some x) :
    split s.toList = (equal, s.toList) := by
  cases hs : s.toList with
  | nil => rfl
  | cons c cs =>
    have hmark : c ∉ marks := fun hmark => by
      rw [readNumber?_of_mem_marks hs hmark] at h
      cases h
    rw [mem_marks_iff, not_or, not_or, not_or] at hmark
    simp [split, written, sign, dropPrefix?, Ne.symm hmark.1, Ne.symm hmark.2.1,
      Ne.symm hmark.2.2.1]

/-- A sign in front of a number is taken off again. -/
theorem split_condition (c : Comparison) {s : String} {x : Binary64}
    (h : readNumber? s = some x) : split (c.condition s).toList = (c, s.toList) := by
  have hequals : ∀ cs, s.toList ≠ '=' :: cs := fun cs hs => by
    rw [readNumber?_of_mem_marks hs (by decide)] at h
    cases h
  cases c with
  | equal => exact split_of_readNumber? h
  | above | below =>
    cases hs : s.toList with
    | nil => simp [split, written, condition, sign, dropPrefix?, hs]
    | cons c cs =>
      have hne : '=' ≠ c := fun heq => hequals cs (by rw [hs, heq])
      simp [split, written, condition, sign, dropPrefix?, hs, hne]
  | atLeast | atMost | different => simp [split, written, condition, sign, dropPrefix?]

/-- A condition with a sign begins with one of its marks. -/
theorem exists_toList_condition {c : Comparison} (hc : c ≠ equal) (s : String) :
    ∃ mark ∈ marks, ∃ rest, (c.condition s).toList = mark :: rest := by
  cases c <;> first | contradiction | simp [condition, sign, marks]

/-- Behind the sign of a comparison, a number makes no word for a missing value. -/
theorem isMissingWord_condition {c : Comparison} (hc : c ≠ equal) {s : String} {x : Binary64}
    (h : readNumber? s = some x) : isMissingWord (c.condition s) = false := by
  cases c with
  | equal => exact absurd rfl hc
  | atLeast | atMost | different | above =>
    simp [isMissingWord, missingWords, sameIgnoringAsciiCase, condition, sign]
  | below =>
    rw [Bool.eq_false_iff]
    intro hmissing
    -- the only such word that begins with the sign is `<na>`, and its rest is no number
    have hrest : s.toList.map Char.toLower = ['n', 'a', '>'] := by
      simpa [isMissingWord, missingWords, sameIgnoringAsciiCase, condition, sign] using hmissing
    have hcodes : ∀ d ∈ s.toList, 0x3C ≤ d.toNat ∧ d.toNat ≤ 0x7A :=
      fun d hd => toNat_of_mem_missingWord hmissing (by simp [condition, hd])
    have hnone := Cell.readNumber?_of_toNat_ge hcodes (by rw [hrest]; decide)
    rw [hrest, if_neg (by decide), h] at hnone
    cases hnone

/-- A comparison with a number is no text that means a missing value. -/
theorem meansMissing_condition (c : Comparison) {s : String} {x : Binary64}
    (h : readNumber? s = some x) (hx : x ≠ .nan) : meansMissing (c.condition s) = false := by
  by_cases hc : c = equal
  · rw [hc]
    exact Cell.meansMissing_of_readNumber? h hx
  have hnan : isNaN (c.condition s) = false := by
    obtain ⟨mark, hmark, rest, hrest⟩ := exists_toList_condition hc s
    rw [isNaN, readNumber?_of_mem_marks hrest hmark]
    rfl
  rw [meansMissing, isMissingWord_condition hc h, hnan]
  rfl

end Comparison

namespace Predicate

/-- Among numbers, a sign in front of a number makes the comparison with it. -/
theorem ofNumeric_condition (c : Comparison) {s : String} {x : Binary64}
    (h : readNumber? s = some x) : ofNumeric (c.condition s) = compares c x := by
  simp only [ofNumeric, Comparison.split_condition c h]
  rw [readNumber?] at h
  rw [h]

theorem ofCondition_condition (c : Comparison) {s : String} {x : Binary64} {type : ColumnType}
    (h : readNumber? s = some x) (hx : x ≠ .nan) (htype : type.isNumeric = true) :
    ofCondition (c.condition s) type = compares c x := by
  rw [ofCondition.eq_def, Comparison.meansMissing_condition c h hx, if_neg Bool.false_ne_true,
    ← ofNumeric_condition c h]
  cases type with
  | integer | float => rfl
  | boolean | text | unknown => cases htype

/-- A comparison with a whole number compares with the number at its rounded place. -/
theorem exists_ofCondition_condition (c : Comparison) {s : String} {n : Int64}
    (h : readInteger? s = some n) :
    ∃ x, x.place? = some (Integer.rounded n.toInt * Magnitude.one) ∧
      ofCondition (c.condition s) .integer = compares c x := by
  obtain ⟨x, hread, hplace⟩ := Binary64.place?_of_integerRead? h
  rw [Binary64.place?_ofInt (Integer.natAbs_toInt_le n)] at hplace
  have hx : x ≠ .nan := by
    rintro rfl
    cases hplace
  exact ⟨x, hplace, ofCondition_condition c hread hx rfl⟩

/-- A whole number and the operand are compared as rounded. -/
theorem holds_compares_integer {c : Comparison} {x : Binary64} {n : ℤ} (k : Int64)
    (hx : x.place? = some (Integer.rounded n * Magnitude.one)) :
    (compares c x).holds (.integer k) = true
      ↔ c.Relates (Integer.rounded k.toInt) (Integer.rounded n) := by
  have hplace := Binary64.place?_ofInt (Integer.natAbs_toInt_le k)
  have horder : (Binary64.ofInt k.toInt).compare? x
      = some (compare (Integer.rounded k.toInt) (Integer.rounded n)) := by
    have hone := Magnitude.one_pos
    revert hplace hx hone
    generalize Magnitude.one = one
    intro hx hplace hone
    rw [Binary64.compare?_of_place? hplace hx, compare_mul_right (Int.natCast_pos.mpr hone)]
  rw [holds, Cell.number?]
  simp only [horder]
  exact Comparison.holds_compare c _ _

end Predicate

namespace Table

/-- A condition on a column of whole numbers compares cell and operand rounded to 53 significant
bits. It compares the numbers themselves exactly if they are not rounded to the same without being
the same, and so always if one of them is below `2⁵³`. -/
theorem selects_integer_iff {t : Table} {column operand : String} {index i : ℕ} {row : Row}
    {k n : Int64} (hindex : t.columnIndex? column = some index)
    (htype : t.columns[index]?.map Column.type = some .integer) (hrow : t.rows[i]? = some row)
    (hcell : row[index]? = some (.integer k)) (hoperand : readInteger? operand = some n) :
    (∀ c : Comparison, t.Selects column (c.condition operand) i
      ↔ c.Relates (Integer.rounded k.toInt) (Integer.rounded n.toInt)) ∧
    ((∀ c : Comparison, t.Selects column (c.condition operand) i ↔ c.Relates k.toInt n.toInt)
      ↔ (Integer.rounded k.toInt = Integer.rounded n.toInt → k = n)) ∧
    (k.toInt.natAbs < 2 ^ 53 ∨ n.toInt.natAbs < 2 ^ 53 →
      ∀ c : Comparison, t.Selects column (c.condition operand) i ↔ c.Relates k.toInt n.toInt) := by
  have hselects : ∀ c : Comparison, t.Selects column (c.condition operand) i
      ↔ c.Relates (Integer.rounded k.toInt) (Integer.rounded n.toInt) := by
    intro c
    obtain ⟨x, hplace, hpredicate⟩ := Predicate.exists_ofCondition_condition c hoperand
    rw [selects_iff_holds hindex htype hrow hcell, hpredicate,
      Predicate.holds_compares_integer k hplace]
  have hexact : (Integer.rounded k.toInt = Integer.rounded n.toInt → k.toInt = n.toInt) →
      ∀ c : Comparison, t.Selects column (c.condition operand) i ↔ c.Relates k.toInt n.toInt := by
    intro h c
    rw [hselects, Comparison.relates_rounded_iff h]
  refine ⟨hselects, ⟨?_, ?_⟩, ?_⟩
  · intro h hsame
    have hequal := (h .equal).mp ((hselects .equal).mpr hsame)
    exact Int64.toInt_inj.mp hequal
  · intro h
    exact hexact fun hsame => congrArg Int64.toInt (h hsame)
  · intro h
    apply hexact
    intro hsame
    rcases h with hk | hn
    · exact Integer.eq_of_rounded_eq hk hsame
    · exact (Integer.eq_of_rounded_eq hn hsame.symm).symm

/-- Two rows whose ids are rounded to the same number. -/
def neighbours : Table :=
  ⟨[⟨"id", .integer⟩], [[.integer 9007199254740992], [.integer 9007199254740993]]⟩

theorem selects_integer_iff_neighbours :
    neighbours.rows[1]? = some [.integer 9007199254740993] ∧ readInteger? " -5" = some (-5) ∧
      ∀ c : Comparison,
        neighbours.Selects "id" (c.condition " -5") 1 ↔ c.Relates 9007199254740993 (-5) := by
  have hcolumn : neighbours.columnIndex? "id" = some 0 := by decide
  have htype : neighbours.columns[0]?.map Column.type = some .integer := by decide
  have hrow : neighbours.rows[1]? = some [.integer 9007199254740993] := rfl
  have hcell : ([.integer 9007199254740993] : Row)[0]? = some (.integer 9007199254740993) := rfl
  have hoperand : readInteger? " -5" = some (-5) := by decide
  have hselects := selects_integer_iff hcolumn htype hrow hcell hoperand
  exact ⟨hrow, hoperand, hselects.2.2 (Or.inr (by decide))⟩

/-- The condition with the id of the second row selects the first one too, and deletes both. -/
theorem neighbour_selected_by_id :
    let id := "9007199254740993"
    readInteger? id = some 9007199254740993 ∧
      neighbours.rows[0]? = some [.integer 9007199254740992] ∧
      (9007199254740992 : Int64) ≠ 9007199254740993 ∧ neighbours.Selects "id" id 0 ∧
      neighbours.delete (.ofList [("id", id)]) false
        = .ok (.write ("Deleted 2 row(s). Conditions: \x7bid: " ++ id ++ "\x7d") 2
          ⟨neighbours.columns, []⟩) := by
  refine ⟨by decide, rfl, by decide, ⟨[true, true], by decide +kernel, rfl⟩, ?_⟩
  exact Traversal.toOption_eq_some_iff.mp (by decide +kernel)

end Table
end TableShell
