import TableShell.Proofs.Cell.Display

/-!
# Texts and the cells that are made of them

`infer_cases` and `cast_cases` say all that `infer` and `cast` can give. `meansMissing_iff` lists
the texts that mean that there is no value; one that spells a number is not among them
(`meansMissing_of_readNumber?`).
-/

namespace TableShell

open Text

/-! ## Words for missing values -/

/-- Only the capitals of ASCII change. -/
theorem toLower_eq_or_capital (c : Char) :
    c.toLower = c ∨ (0x41 ≤ c.toNat ∧ c.toNat ≤ 0x5A) := by
  by_cases h : 0x41 ≤ c.toNat ∧ c.toNat ≤ 0x5A
  · exact Or.inr h
  · exact Or.inl (dif_neg h)

theorem exists_of_isMissingWord {s : String} (h : isMissingWord s = true) :
    ∃ w ∈ missingWords, s.toList.map Char.toLower = w.toList.map Char.toLower := by
  rw [isMissingWord, List.any_eq_true] at h
  obtain ⟨w, hw, hsame⟩ := h
  rw [sameIgnoringAsciiCase, beq_iff_eq] at hsame
  exact ⟨w, hw, hsame⟩

/-- The characters of a word for a missing value come after all digits. -/
theorem toNat_of_mem_missingWord {s : String} (h : isMissingWord s = true) {c : Char}
    (hc : c ∈ s.toList) : 0x3C ≤ c.toNat ∧ c.toNat ≤ 0x7A := by
  have hwords : missingWords.all (fun w => (w.toList.map Char.toLower).all fun c =>
      decide (0x3C ≤ c.toNat ∧ c.toNat ≤ 0x7A)) = true := by decide
  obtain ⟨w, hw, hsame⟩ := exists_of_isMissingWord h
  have hmem : c.toLower ∈ w.toList.map Char.toLower := hsame ▸ List.mem_map_of_mem hc
  have hlower := List.all_eq_true.mp (List.all_eq_true.mp hwords w hw) c.toLower hmem
  rw [decide_eq_true_eq] at hlower
  rcases toLower_eq_or_capital c with heq | hcapital
  · rwa [heq] at hlower
  · omega

/-- Only a capital is lowered to another character, and then to a small letter. -/
theorem eq_of_toLower_eq {c d : Char} (h : c.toLower = d) (hd : d.toNat < 0x61) : c = d := by
  rcases toLower_eq_or_capital c with hsame | hcapital
  · rw [← h, hsame]
  · exfalso
    have hlower : c.toLower.toNat = c.toNat + 32 := by
      have hval : c.toLower.val = c.val + 32 := congrArg Char.val (dif_pos hcapital)
      have hcode : c.val.toNat = c.toNat := rfl
      have hshift : (32 : UInt32).toNat = 32 := rfl
      rw [Char.toNat, hval, UInt32.toNat_add, hcode, hshift]
      exact Nat.mod_eq_of_lt (by omega)
    rw [h] at hlower
    omega

/-- No word for a missing value is one for an infinity. -/
theorem map_toLower_ne_infinity {s : String} (h : isMissingWord s = true) :
    ¬ (s.toList.map Char.toLower = ['i', 'n', 'f'] ∨
      s.toList.map Char.toLower = ['i', 'n', 'f', 'i', 'n', 'i', 't', 'y']) := by
  have hwords : ∀ w ∈ missingWords, ¬ (w.toList.map Char.toLower = ['i', 'n', 'f'] ∨
      w.toList.map Char.toLower = ['i', 'n', 'f', 'i', 'n', 'i', 't', 'y']) := by decide
  obtain ⟨w, hw, hsame⟩ := exists_of_isMissingWord h
  rw [hsame]
  exact hwords w hw

namespace Decimal

theorem takeMantissa_of_not_digit {c : Char} (hc : isDigit c = false) (hpoint : c ≠ '.')
    (cs : List Char) : takeMantissa (c :: cs) = (([], []), c :: cs) := by
  rw [takeMantissa, List.takeWhile_cons_of_neg (by rw [hc]; exact Bool.false_ne_true),
    List.dropWhile_cons_of_neg (by rw [hc]; exact Bool.false_ne_true)]
  split
  · rename_i heq
    exact absurd (List.cons.inj heq).1 hpoint
  · rfl

theorem takeSign_of_ne {c : Char} (hminus : c ≠ '-') (hplus : c ≠ '+') (cs : List Char) :
    takeSign (c :: cs) = (false, c :: cs) := by
  rw [takeSign.eq_def]
  split
  · rename_i heq
    exact absurd (List.cons.inj heq).1 hminus
  · rename_i heq
    exact absurd (List.cons.inj heq).1 hplus
  · rfl

end Decimal

namespace Binary64

theorem readUnsigned?_eq_nan_iff {negative : Bool} {cs : List Char} :
    readUnsigned? negative cs = some nan ↔ cs.map Char.toLower = ['n', 'a', 'n'] := by
  rw [readUnsigned?]
  simp only
  split
  · rename_i hword
    exact iff_of_true rfl hword
  · rename_i hword
    refine iff_of_false ?_ hword
    split
    · exact fun h => by cases h
    · split
      · exact fun h => by cases h
      · intro h
        obtain ⟨power, -, hnan⟩ := Option.map_eq_some_iff.mp h
        exact Decimal.nearestOf_ne_nan _ _ _ _ hnan

/-- What is not a number is spelled by one word, with or without a sign. -/
theorem read?_eq_nan_iff {cs : List Char} :
    read? cs = some nan ↔ cs.map Char.toLower ∈ ["nan", "+nan", "-nan"].map String.toList := by
  cases cs with
  | nil => decide
  | cons c rest =>
    by_cases hminus : c = '-'
    · subst hminus
      have hread : read? ('-' :: rest) = readUnsigned? true rest := rfl
      rw [hread, readUnsigned?_eq_nan_iff]
      simp
    · by_cases hplus : c = '+'
      · subst hplus
        have hread : read? ('+' :: rest) = readUnsigned? false rest := rfl
        rw [hread, readUnsigned?_eq_nan_iff]
        simp
      · have hminus' : c.toLower ≠ '-' := fun h => hminus (eq_of_toLower_eq h (by decide))
        have hplus' : c.toLower ≠ '+' := fun h => hplus (eq_of_toLower_eq h (by decide))
        rw [read?, Decimal.takeSign_of_ne hminus hplus, readUnsigned?_eq_nan_iff]
        simp [hminus', hplus']

end Binary64

/-- The text is a word for a missing value in any case, or, within blanks, the word for what is not
a number with or without a sign. -/
def Text.SpellsMissing (s : String) : Prop :=
  s.toList.map Char.toLower ∈ ["nan", "na", "<na>", "none", ""].map String.toList ∨
    (trimChars s.toList).map Char.toLower ∈ ["nan", "+nan", "-nan"].map String.toList

/-- A text means that there is no value exactly if it is spelled like this. -/
theorem meansMissing_iff {s : String} : meansMissing s = true ↔ SpellsMissing s := by
  have hword : isMissingWord s = true ↔
      s.toList.map Char.toLower ∈ ["nan", "na", "<na>", "none", ""].map String.toList := by
    simp [isMissingWord, missingWords, sameIgnoringAsciiCase]
  rw [meansMissing, Bool.or_eq_true, hword, isNaN, beq_iff_eq, readNumber?,
    Binary64.read?_eq_nan_iff, SpellsMissing]

namespace Cell

/-- Characters that come after all digits spell a number only if they are a word for one. -/
theorem readNumber?_of_toNat_ge {s : String}
    (hcodes : ∀ c ∈ s.toList, 0x3C ≤ c.toNat ∧ c.toNat ≤ 0x7A)
    (hinfinity : ¬ (s.toList.map Char.toLower = ['i', 'n', 'f'] ∨
      s.toList.map Char.toLower = ['i', 'n', 'f', 'i', 'n', 'i', 't', 'y'])) :
    readNumber? s = if s.toList.map Char.toLower = ['n', 'a', 'n'] then some .nan else none := by
  have hblank : ∀ c ∈ s.toList, isBlank c = false := by
    intro c hc
    have hcode := hcodes c hc
    exact isBlank_eq_false_of_printable (by omega) (by omega)
  rw [readNumber?, trimChars_eq_self hblank]
  cases hs : s.toList with
  | nil => decide
  | cons c cs =>
    have hcode := hcodes c (hs ▸ List.mem_cons_self)
    have hne : ∀ d : Char, d.toNat < 0x3C → c ≠ d := by
      rintro d hd rfl
      omega
    have hdigit : Decimal.isDigit c = false := by
      rw [Bool.eq_false_iff]
      intro hdigit
      have hle := (Decimal.toNat_of_isDigit hdigit).2
      omega
    rw [hs] at hinfinity
    rw [Binary64.read?, Decimal.takeSign_of_ne (hne '-' (by decide)) (hne '+' (by decide))]
    simp only [Binary64.readUnsigned?, hinfinity, if_false,
      Decimal.takeMantissa_of_not_digit hdigit (hne '.' (by decide)), and_self, if_true]

/-- A word for a missing value spells no number. -/
theorem readNumber?_of_isMissingWord {s : String} (h : isMissingWord s = true) :
    readNumber? s = none ∨ readNumber? s = some .nan := by
  rw [readNumber?_of_toNat_ge (fun c hc => toNat_of_mem_missingWord h hc)
    (map_toLower_ne_infinity h)]
  split
  · exact Or.inr rfl
  · exact Or.inl rfl

/-- What spells a number has a value. -/
theorem meansMissing_of_readNumber? {s : String} {x : Binary64} (h : readNumber? s = some x)
    (hx : x ≠ .nan) : meansMissing s = false := by
  have hnan : isNaN s = false := by
    rw [isNaN, h, beq_eq_false_iff_ne]
    exact fun heq => hx (Option.some.inj heq)
  have hword : isMissingWord s = false := by
    rw [Bool.eq_false_iff]
    intro hword
    rcases readNumber?_of_isMissingWord hword with hnone | hnan
    · rw [h] at hnone
      cases hnone
    · rw [h] at hnan
      exact hx (Option.some.inj hnan)
  rw [meansMissing, hword, hnan]
  rfl

/-! ## What `infer` and `cast` give -/

/-- What a text looks like. -/
theorem infer_cases (s : String) :
    (∃ i, infer s = .integer i ∧ readInteger? s = some i) ∨
    (∃ x, infer s = .float x ∧ readNumber? s = some x ∧ x ≠ .nan ∧ readInteger? s = none) ∨
    (∃ b, infer s = .boolean b) ∨ infer s = .text s ∨ (infer s = .missing ∧ isNaN s = true) := by
  rw [infer]
  split
  · rename_i i hinteger
    exact Or.inl ⟨i, rfl, hinteger⟩
  · rename_i hnumber
    have hnan : isNaN s = true := by
      rw [isNaN, hnumber]
      rfl
    exact Or.inr (Or.inr (Or.inr (Or.inr ⟨rfl, hnan⟩)))
  · rename_i x hne hinteger hnumber
    exact Or.inr (Or.inl ⟨x, rfl, hnumber, hne, hinteger⟩)
  · split
    · exact Or.inr (Or.inr (Or.inl ⟨true, rfl⟩))
    · split
      · exact Or.inr (Or.inr (Or.inl ⟨false, rfl⟩))
      · exact Or.inr (Or.inr (Or.inr (Or.inl rfl)))

/-- A text in a column of a type: nothing, the text itself, or a value of the type. -/
theorem cast_cases (s : String) {type : ColumnType} (h : type ≠ .unknown) :
    (cast s type = .missing ∧ meansMissing s = true) ∨
    (meansMissing s = false ∧
      (cast s type = .text s ∨ ((cast s type).IsValue ∧ (cast s type).type = type))) := by
  rw [cast.eq_def]
  cases hmissing : meansMissing s with
  | true => exact Or.inl ⟨rfl, rfl⟩
  | false =>
    rw [if_neg Bool.false_ne_true]
    refine Or.inr ⟨rfl, ?_⟩
    cases type with
    | unknown => exact absurd rfl h
    | text => exact Or.inl rfl
    | integer =>
      simp only
      split
      · exact Or.inr ⟨trivial, rfl⟩
      · split
        · exact Or.inr ⟨trivial, rfl⟩
        · exact Or.inl rfl
    | float =>
      simp only
      cases hnumber : readNumber? s with
      | none => exact Or.inl rfl
      | some x =>
        refine Or.inr ⟨?_, rfl⟩
        rintro rfl
        have hnan : isNaN s = true := by
          rw [isNaN, hnumber]
          rfl
        rw [meansMissing, hnan, Bool.or_true] at hmissing
        cases hmissing
    | boolean =>
      simp only
      cases readBool? s with
      | none => exact Or.inl rfl
      | some b => exact Or.inr ⟨trivial, rfl⟩

/-! ## The type that the text of a value shows -/

theorem infer_display_integer (i : Int64) : infer (integer i).display = .integer i := by
  rw [infer, readInteger?_display]

theorem infer_display_boolean (b : Bool) : infer (boolean b).display = .boolean b := by
  cases b <;> decide

/-- A floating point number whose text is a whole number of 64 bits looks like one. -/
theorem infer_display_float {x : Binary64} (h : x ≠ .nan) :
    (infer (float x).display).type
      = if (readInteger? (float x).display).isSome then .integer else .float := by
  rw [infer, readNumber?_display h]
  cases readInteger? (float x).display with
  | some i => rfl
  | none => cases x <;> first | rfl | exact absurd rfl h

end Cell
end TableShell
