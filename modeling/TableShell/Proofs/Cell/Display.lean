import TableShell.Cell.Coercion
import TableShell.Proofs.Number.Whole
import TableShell.Proofs.Text.Trimming

/-!
# Shown cells

Numbers and truth values are shown in plain characters (`isPlain_of_mem_display`), never as a word
for a missing value (`meansMissing_display`), and the text that is shown casts back to the cell in a
column of its type (`cast_display`).
-/

namespace TableShell

open Text

namespace Cell

/-! ## Plain characters -/

/-- The characters in which numbers and truth values are written. -/
def isPlain (c : Char) : Bool :=
  c.isAlphanum || ['+', '-', '.'].contains c

theorem toNat_of_isPlain {c : Char} (h : isPlain c = true) :
    0x2B ≤ c.toNat ∧ c.toNat ≤ 0x7A := by
  simp only [isPlain, Bool.or_eq_true, List.contains_eq_mem, decide_eq_true_eq, List.mem_cons,
    List.not_mem_nil, or_false] at h
  rcases h with h | rfl | rfl | rfl
  · have hcode := toNat_of_isAlphanum h
    omega
  all_goals decide

theorem isBlank_of_isPlain {c : Char} (h : isPlain c = true) : isBlank c = false := by
  have hcode := toNat_of_isPlain h
  exact isBlank_eq_false_of_printable (by omega) (by omega)

theorem isPlain_of_isDigit {c : Char} (h : Decimal.isDigit c = true) : isPlain c = true := by
  rw [Decimal.isDigit_eq] at h
  rw [isPlain, Char.isAlphanum, h, Bool.or_true, Bool.true_or]

/-- The cell is a number that is one, or a truth value. -/
def IsValue : Cell → Prop
  | integer _ | boolean _ => True
  | float x => x ≠ .nan
  | text _ | missing => False

theorem eq_or_isValue {cell : Cell} (h : cell ≠ .float .nan) :
    cell = .missing ∨ (∃ s, cell = .text s) ∨ cell.IsValue := by
  cases cell with
  | integer i => exact Or.inr (Or.inr trivial)
  | float x => exact Or.inr (Or.inr fun hx => h (congrArg float hx))
  | boolean b => exact Or.inr (Or.inr trivial)
  | text s => exact Or.inr (Or.inl ⟨s, rfl⟩)
  | missing => exact Or.inl rfl

theorem isPlain_of_mem_sign {negative : Bool} {c : Char} (h : c ∈ Binary64.sign negative) :
    isPlain c = true := by
  cases negative with
  | false => cases h
  | true =>
    rw [List.mem_singleton.mp h]
    decide

theorem isPlain_of_mem_digits {n : ℕ} {c : Char} (h : c ∈ Decimal.digits n) : isPlain c = true :=
  isPlain_of_isDigit (Decimal.isDigit_of_mem_digits h)

theorem isPlain_of_mem_cellText {x : Binary64} {c : Char} (h : c ∈ x.cellText) :
    isPlain c = true := by
  cases x with
  | nan =>
    have hword : ['N', 'a', 'N'].all isPlain = true := by decide
    exact List.all_eq_true.mp hword c h
  | infinite negative =>
    have hword : ['i', 'n', 'f'].all isPlain = true := by decide
    rw [Binary64.cellText, List.mem_append] at h
    rcases h with h | h
    · exact isPlain_of_mem_sign h
    · exact List.all_eq_true.mp hword c h
  | finite negative m =>
    obtain ⟨text, whole, fraction, htext, hnumeral⟩ := Binary64.exists_isNumeral_cellText negative m
    rw [htext, List.mem_append] at h
    rcases h with h | h
    · exact isPlain_of_mem_sign h
    · rcases hnumeral.isDigit_or_eq_point h with hdigit | rfl
      · exact isPlain_of_isDigit hdigit
      · decide

/-- The text of a value is written in plain characters. -/
theorem isPlain_of_mem_display {cell : Cell} (hcell : cell.IsValue) {c : Char}
    (h : c ∈ cell.display.toList) : isPlain c = true := by
  cases cell with
  | integer i =>
    rw [display, String.toList_ofList, Integer.digits_eq] at h
    rcases List.mem_append.mp h with h | h
    · exact isPlain_of_mem_sign h
    · exact isPlain_of_mem_digits h
  | float x =>
    rw [display, String.toList_ofList] at h
    exact isPlain_of_mem_cellText h
  | boolean b =>
    have hword : (boolean b).display.toList.all isPlain = true := by cases b <;> decide
    exact List.all_eq_true.mp hword c h
  | text s => exact absurd hcell id
  | missing => exact absurd hcell id

/-- There is nothing to trim off the text of a value. -/
theorem trimChars_display {cell : Cell} (hcell : cell.IsValue) :
    trimChars cell.display.toList = cell.display.toList :=
  trimChars_eq_self fun _ hc => isBlank_of_isPlain (isPlain_of_mem_display hcell hc)

/-! ## Reading the text of a value -/

theorem readInteger?_display (i : Int64) : readInteger? (integer i).display = some i := by
  have hcell : (integer i).IsValue := trivial
  rw [readInteger?, trimChars_display hcell, display, String.toList_ofList, Integer.read?_digits]

theorem readNumber?_display {x : Binary64} (h : x ≠ .nan) :
    readNumber? (float x).display = some x := by
  have hcell : (float x).IsValue := h
  rw [readNumber?, trimChars_display hcell, display, String.toList_ofList,
    Binary64.read?_cellText h]

/-- A floating point number looks like a whole number only if it is whole, and at least `10¹⁶`. -/
theorem exists_of_readInteger?_display {x : Binary64} (hx : x ≠ .nan) {i : Int64}
    (h : readInteger? (float x).display = some i) :
    ∃ negative m, x = .finite negative m ∧ m.isIntegral = true ∧
      Magnitude.wholeLimit ≤ m.units := by
  have hcell : (float x).IsValue := hx
  rw [readInteger?, trimChars_display hcell, display, String.toList_ofList] at h
  exact Integer.exists_of_read?_cellText h

/-- Such a number is shown like the whole number. -/
theorem display_of_readInteger?_display {x : Binary64} (hx : x ≠ .nan) {i : Int64}
    (h : readInteger? (float x).display = some i) :
    (integer i).display = (float x).display := by
  have hcell : (float x).IsValue := hx
  rw [readInteger?, trimChars_display hcell, display, String.toList_ofList] at h
  rw [display, display, Integer.digits_of_read?_cellText h]

theorem isNumeral_digits (n : ℕ) : Binary64.IsNumeral (Decimal.digits n) (Decimal.digits n) [] where
  text_eq := (List.append_nil _).symm
  whole_ne_nil := Decimal.digits_ne_nil n
  isDigit_of_mem c hc := Decimal.isDigit_of_mem_digits (by rwa [List.append_nil] at hc)

/-- The text of a value does not spell what is not a number. -/
theorem isNaN_display {cell : Cell} (hcell : cell.IsValue) : isNaN cell.display = false := by
  have hread : ∀ x, readNumber? cell.display = some x → x ≠ .nan := by
    cases cell with
    | integer i =>
      intro x hx
      rw [readNumber?, trimChars_display hcell, display, String.toList_ofList, Integer.digits_eq,
        (isNumeral_digits _).read?_sign] at hx
      rw [← Option.some.inj hx]
      exact Decimal.nearestOf_ne_nan _ _ _ _
    | float y =>
      intro x hx
      rw [readNumber?_display hcell] at hx
      rw [← Option.some.inj hx]
      exact hcell
    | boolean b =>
      intro x hx
      have hnone : readNumber? (boolean b).display = none := by
        cases b <;> decide
      rw [hnone] at hx
      cases hx
    | text s => exact absurd hcell id
    | missing => exact absurd hcell id
  rw [isNaN, beq_eq_false_iff_ne]
  exact fun hnan => hread .nan hnan rfl

theorem exists_cons_sign (negative : Bool) {text whole fraction : List Char}
    (h : Binary64.IsNumeral text whole fraction) :
    ∃ c cs, Binary64.sign negative ++ text = c :: cs ∧ (Decimal.isDigit c = true ∨ c = '-') := by
  cases negative with
  | true => exact ⟨_, _, rfl, Or.inr rfl⟩
  | false =>
    obtain ⟨c, cs, htext, hdigit⟩ := h.exists_cons
    exact ⟨c, cs, htext, Or.inl hdigit⟩

/-- The text of a value begins with a digit, a minus sign, or one of three letters. -/
theorem exists_cons_display {cell : Cell} (hcell : cell.IsValue) :
    ∃ c cs, cell.display.toList = c :: cs ∧
      ((Decimal.isDigit c = true ∨ c = '-') ∨ c ∈ ['i', 't', 'f']) := by
  cases cell with
  | integer i =>
    obtain ⟨c, cs, htext, hc⟩ := exists_cons_sign (i.toInt < 0) (isNumeral_digits i.toInt.natAbs)
    rw [display, String.toList_ofList, Integer.digits_eq]
    exact ⟨c, cs, htext, Or.inl hc⟩
  | float x =>
    rw [display, String.toList_ofList]
    cases x with
    | nan => exact absurd rfl hcell
    | infinite negative =>
      cases negative with
      | false => exact ⟨_, _, rfl, Or.inr (by decide)⟩
      | true => exact ⟨_, _, rfl, Or.inl (Or.inr rfl)⟩
    | finite negative m =>
      obtain ⟨text, whole, fraction, htext, hnumeral⟩ :=
        Binary64.exists_isNumeral_cellText negative m
      obtain ⟨c, cs, hcons, hc⟩ := exists_cons_sign negative hnumeral
      exact ⟨c, cs, htext.trans hcons, Or.inl hc⟩
  | boolean b =>
    cases b with
    | false => exact ⟨_, _, rfl, Or.inr (by decide)⟩
    | true => exact ⟨_, _, rfl, Or.inr (by decide)⟩
  | text s => exact absurd hcell id
  | missing => exact absurd hcell id

/-- A word for a missing value is empty, or begins with `n` or `<`. -/
theorem isMissingWord_eq_false {s : String} {c : Char} {cs : List Char} (hs : s.toList = c :: cs)
    (hn : c.toLower ≠ 'n') (hlt : c.toLower ≠ '<') : isMissingWord s = false := by
  simp [isMissingWord, missingWords, sameIgnoringAsciiCase, hs, hn, hlt]

/-- The text of a value does not mean a missing value. -/
theorem meansMissing_display {cell : Cell} (hcell : cell.IsValue) :
    meansMissing cell.display = false := by
  obtain ⟨c, cs, hs, hc⟩ := exists_cons_display hcell
  have hletter : c.toLower ≠ 'n' ∧ c.toLower ≠ '<' := by
    rcases hc with (hdigit | rfl) | hmem
    · have hcode := Decimal.toNat_of_isDigit hdigit
      rw [Decimal.toLower_of_isDigit hdigit]
      constructor <;>
      · rintro rfl
        revert hcode
        decide
    · decide
    · rw [List.mem_cons, List.mem_cons, List.mem_singleton] at hmem
      rcases hmem with rfl | rfl | rfl <;> decide
  rw [meansMissing, isMissingWord_eq_false hs hletter.1 hletter.2, isNaN_display hcell]
  rfl

/-- The text of a value casts back to it in a column of its type. -/
theorem cast_display {cell : Cell} (hcell : cell.IsValue) : cast cell.display cell.type = cell := by
  rw [cast.eq_def, meansMissing_display hcell, if_neg Bool.false_ne_true]
  cases cell with
  | integer i => simp only [type, readInteger?_display]
  | float x => simp only [type, readNumber?_display hcell, Option.map_some, Option.getD_some]
  | boolean b =>
    have hread : readBool? (boolean b).display = some b := by
      cases b <;> decide
    simp only [type, hread, Option.map_some, Option.getD_some]
  | text s => exact absurd hcell id
  | missing => exact absurd hcell id

end Cell
end TableShell
