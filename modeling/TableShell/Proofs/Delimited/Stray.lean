import TableShell.Effect
import TableShell.Proofs.Delimited.Retyping

/-!
# Columns that are typed by their own texts

A new column has the common type of its texts, and so has a loaded one. Each text then becomes a
cell of that type, but for two kinds: a truth value between blanks, which is looked at without them
but cast with them, and a quoted word for what is not a number, which shows no type at all
(`type_cell_iff_proper`). Everything else is stored with the type of its column.
-/

namespace TableShell

open Text ColumnType

/-! ## Words for truth values -/

/-- A text that is a printable word in any case has no blanks. -/
theorem isBlank_of_sameIgnoringAsciiCase {s word : String}
    (h : sameIgnoringAsciiCase s word = true)
    (hword : ∀ c ∈ word.toList.map Char.toLower, 0x20 < c.toNat ∧ c.toNat < 0x7F) {c : Char}
    (hc : c ∈ s.toList) : isBlank c = false := by
  rw [sameIgnoringAsciiCase, beq_iff_eq] at h
  have hlower := hword c.toLower (h ▸ List.mem_map_of_mem hc)
  rcases toLower_eq_or_capital c with heq | hcapital
  · rw [heq] at hlower
    exact isBlank_eq_false_of_printable hlower.1 hlower.2
  · exact isBlank_eq_false_of_printable (by omega) (by omega)

/-- A word for a truth value has no blanks around it. -/
theorem trim_of_readBool? {s : String} {b : Bool} (h : readBool? s = some b) : trim s = s := by
  have hwords : (["true", "1", "t", "yes"] ++ ["false", "0", "f", "no"]).all (fun word =>
      (word.toList.map Char.toLower).all fun c => decide (0x20 < c.toNat ∧ c.toNat < 0x7F))
      = true := by decide
  obtain ⟨word, hword, hsame⟩ : ∃ word ∈ ["true", "1", "t", "yes"] ++ ["false", "0", "f", "no"],
      sameIgnoringAsciiCase s word = true := by
    rw [readBool?] at h
    split at h
    · rename_i hany
      obtain ⟨word, hword, hsame⟩ := List.any_eq_true.mp hany
      exact ⟨word, List.mem_append_left _ hword, hsame⟩
    · split at h
      · rename_i hany
        obtain ⟨word, hword, hsame⟩ := List.any_eq_true.mp hany
        exact ⟨word, List.mem_append_right _ hword, hsame⟩
      · cases h
  have hprintable : ∀ c ∈ word.toList.map Char.toLower, 0x20 < c.toNat ∧ c.toNat < 0x7F := by
    intro c hc
    exact decide_eq_true_eq.mp (List.all_eq_true.mp (List.all_eq_true.mp hwords word hword) c hc)
  have hblank : ∀ c ∈ s.toList, isBlank c = false := fun c hc =>
    isBlank_of_sameIgnoringAsciiCase hsame hprintable hc
  rw [trim, trimChars_eq_self hblank, String.ofList_toList]

namespace Cell

/-- What looks like a truth value is one of two words, between blanks or not. -/
theorem trim_of_infer_boolean {s : String} (h : (infer s).type = .boolean) :
    sameIgnoringAsciiCase (trim s) "true" = true ∨
      sameIgnoringAsciiCase (trim s) "false" = true := by
  rw [infer] at h
  split at h
  · cases h
  · cases h
  · cases h
  · split at h
    · rename_i htrue
      exact Or.inl htrue
    · split at h
      · rename_i hfalse
        exact Or.inr hfalse
      · cases h

/-- What looks like a truth value is cast to one exactly if there are no blanks around it. -/
theorem readBool?_isSome_iff {s : String} (h : (infer s).type = .boolean) :
    (readBool? s).isSome = true ↔ trim s = s := by
  constructor
  · intro hread
    obtain ⟨b, hb⟩ := Option.isSome_iff_exists.mp hread
    exact trim_of_readBool? hb
  · intro htrim
    have hword := trim_of_infer_boolean h
    rw [htrim] at hword
    rw [readBool?]
    split
    · rfl
    · rename_i hnot
      rcases hword with hword | hword
      · exact absurd (List.any_eq_true.mpr ⟨_, List.mem_cons_self, hword⟩) hnot
      · rw [if_pos (List.any_eq_true.mpr ⟨_, List.mem_cons_self, hword⟩)]
        rfl

/-- A text in a column that its type lies within becomes a cell of the type of the column, but for
truth values between blanks. -/
theorem type_cast_iff {s : String} {type : ColumnType} (hmeans : meansMissing s = false)
    (hknown : type ≠ .unknown) (hwithin : Within (infer s).type type) :
    (cast s type).type = type ↔ (type = .boolean → trim s = s) := by
  rcases cast_cases s hknown with ⟨-, hmissing⟩ | ⟨-, hcast | ⟨-, htype⟩⟩
  · rw [hmeans] at hmissing
    cases hmissing
  · -- the text was kept, so it is one of texts or no truth value
    cases type with
    | unknown => exact absurd rfl hknown
    | text => simp [hcast, Cell.type]
    | integer => exact absurd hwithin (Delimited.not_within_of_kept hmeans hcast (Or.inl rfl))
    | float => exact absurd hwithin (Delimited.not_within_of_kept hmeans hcast (Or.inr rfl))
    | boolean =>
      have hinfer : (infer s).type = .boolean :=
        eq_of_within hwithin (Delimited.shownType_text_ne_unknown hmeans) (by decide) (by decide)
      have hread : readBool? s = none := by
        rw [cast, hmeans, if_neg Bool.false_ne_true] at hcast
        cases hread : readBool? s with
        | none => rfl
        | some b => simp [hread] at hcast
      rw [hcast, ← readBool?_isSome_iff hinfer, hread]
      simp [Cell.type]
  · refine iff_of_true htype ?_
    rintro rfl
    have hread : ∃ b, readBool? s = some b := by
      rw [cast, hmeans, if_neg Bool.false_ne_true] at htype
      cases hread : readBool? s with
      | none => simp [hread, Cell.type] at htype
      | some b => exact ⟨b, rfl⟩
    obtain ⟨b, hb⟩ := hread
    exact trim_of_readBool? hb

/-- Each text lies within the type of the column that it is one of. -/
theorem within_inferType {texts : List String} {s : String} (h : s ∈ texts)
    (hmeans : meansMissing s = false) : Within (infer s).type (inferType texts) := by
  have hmem : infer s ∈ (texts.filter fun s => !meansMissing s).map infer :=
    List.mem_map_of_mem (List.mem_filter.mpr ⟨h, by rw [hmeans]; rfl⟩)
  exact (within_mergeAll (List.mem_map_of_mem hmem)).settled

end Cell

namespace Delimited

/-! ## Loaded fields -/

/-- The field is stored in a column of the type with that type: among texts always, and else if it
does not mean that there is no value, and is no truth value between blanks. -/
def Field.Proper (f : Field) (type : ColumnType) : Prop :=
  type = .text ∨ meansMissing f.text = false ∧ (type = .boolean → trim f.text = f.text)

section Fields

variable {f : Field} {type : ColumnType}

/-- A field that holds something has the type of its column exactly if it is proper there. -/
theorem type_cell_iff_proper (hmissing : f.isMissing = false) (hknown : type ≠ .unknown)
    (hwithin : Within f.type type) : (f.cell type).type = type ↔ f.Proper type := by
  by_cases htext : type = .text
  · rcases cell_cases (f := f) hknown with ⟨hmissing', -⟩ | ⟨-, hcell | ⟨-, -, htype⟩⟩
    · rw [hmissing] at hmissing'
      cases hmissing'
    · rw [hcell, htext]
      exact iff_of_true rfl (Or.inl rfl)
    · exact iff_of_true htype (Or.inl htext)
  rw [Field.Proper, or_iff_right htext]
  cases hmeans : meansMissing f.text with
  | true =>
    rcases cell_cases (f := f) hknown with ⟨hmissing', -⟩ | ⟨-, hcell | ⟨hmeans', -⟩⟩
    · rw [hmissing] at hmissing'
      cases hmissing'
    · rw [hcell]
      exact iff_of_false (Ne.symm htext) (by simp)
    · rw [hmeans] at hmeans'
      cases hmeans'
  | false =>
    have hcell : f.cell type = Cell.cast f.text type := by
      rw [Field.cell, hmissing, if_neg Bool.false_ne_true, if_neg (by simp [htext])]
      have hcast := cast_ne_missing hmeans type
      cases hcell : Cell.cast f.text type with
      | missing => exact absurd hcell hcast
      | _ => rfl
    rw [Field.type, hmissing, if_neg Bool.false_ne_true] at hwithin
    rw [hcell, Cell.type_cast_iff hmeans hknown hwithin]
    simp

/-- A field without quotes is trimmed when it ends. -/
theorem trim_field (r : Reading) : r.field.quoted = false → trim r.field.text = r.field.text := by
  intro hquoted
  have hquoted' : r.quoted = false := hquoted
  simp only [Reading.field, hquoted', Bool.false_eq_true, if_false]
  rw [trim, String.toList_ofList, trimChars_trimChars]

/-- A field without quotes that holds something is proper in a column of any type. -/
theorem proper_of_unquoted (hmissing : f.isMissing = false)
    (htrim : f.quoted = false → trim f.text = f.text) (hquoted : f.quoted = false)
    (type : ColumnType) : f.Proper type := by
  rw [Field.isMissing, hquoted, Bool.not_false, Bool.true_and] at hmissing
  exact Or.inr ⟨hmissing, fun _ => htrim hquoted⟩

end Fields

/-- A loaded cell that is not missing is that of a field of the text, in the record of its row. -/
theorem exists_record_of_cellAt? {delimiter : Char} {s : String} {t : Table}
    (h : read delimiter s = .ok t) {i j : ℕ} {column : Column} {cell : Cell}
    (hcolumn : t.columns[j]? = some column) (hcell : cellAt? t i j = some cell)
    (hmissing : cell.isMissing = false) :
    ∃ header body record f, records delimiter s = .ok (header :: body) ∧
      body[i]? = some record ∧ record.fields[j]? = some f ∧ f.isMissing = false ∧
      (f.quoted = false → trim f.text = f.text) ∧ column.type ≠ .unknown ∧
      Within f.type column.type ∧ cell = f.cell column.type := by
  obtain ⟨header, body, rows, hrecords, -, hrows, rfl⟩ := exists_records_of_read h
  obtain ⟨column', fields, f, hcolumn', hfields, hf, hknown, hwithin, rfl⟩ :=
    exists_field_of_cellAt?_tableOf hcell
  obtain rfl : column = column' := Option.some.inj (hcolumn.symm.trans hcolumn')
  have hvalue : f.isMissing = false := by
    rcases cell_cases (f := f) hknown with ⟨-, hcell⟩ | ⟨hvalue, -⟩
    · rw [hcell] at hmissing
      cases hmissing
    · exact hvalue
  obtain ⟨record, hrecord, hfill⟩ := Traversal.exists_of_getElem?_mapM hrows hfields
  obtain ⟨-, rfl⟩ := fillUp_eq_ok_iff.mp hfill
  have hown : record.fields[j]? = some f := by
    rw [List.getElem?_append] at hf
    split at hf
    · exact hf
    · -- a field that was filled up holds nothing
      rw [List.eq_of_mem_replicate (List.mem_of_getElem? hf)] at hvalue
      exact absurd hvalue (by decide)
  have htrimmed := forall_fields_of_scan (P := fun f => f.quoted = false → trim f.text = f.text)
    trim_field (fun _ hf => by cases hf) hrecords record
    (List.mem_cons_of_mem header (List.mem_of_getElem? hrecord))
  exact ⟨header, body, record, f, hrecords, hrecord, hown, hvalue,
    htrimmed.2 f (List.mem_of_getElem? hown), hknown, hwithin, rfl⟩

/-- Of the texts that give a new column its type, each that has a value becomes a cell of that type,
except for truth values between blanks. In a loaded table, a cell that is not missing has the type
of its column exactly if its field is proper there, which it always is without quotes. -/
theorem type_of_fresh_cell (texts : List String) (delimiter : Char) (content : String) :
    (∀ s ∈ texts, meansMissing s = false →
      ((Cell.cast s (Cell.inferType texts)).type = Cell.inferType texts ↔
        (Cell.inferType texts = .boolean → trim s = s))) ∧
    ∀ t, read delimiter content = .ok t →
      ∀ (i j : ℕ) (column : Column) (cell : Cell), t.columns[j]? = some column →
        cellAt? t i j = some cell → cell.isMissing = false →
        ∃ header body record f, records delimiter content = .ok (header :: body) ∧
          body[i]? = some record ∧ record.fields[j]? = some f ∧ cell = f.cell column.type ∧
          (cell.type = column.type ↔ f.Proper column.type) ∧
          (f.quoted = false → f.Proper column.type) := by
  constructor
  · intro s hs hmeans
    exact Cell.type_cast_iff hmeans (settled_ne_unknown _) (Cell.within_inferType hs hmeans)
  · intro t h i j column cell hcolumn hcell hmissing
    obtain ⟨header, body, record, f, hrecords, hrecord, hf, hvalue, htrim, hknown, hwithin, rfl⟩ :=
      exists_record_of_cellAt? h hcolumn hcell hmissing
    exact ⟨header, body, record, f, hrecords, hrecord, hf, rfl,
      type_cell_iff_proper hvalue hknown hwithin,
      fun hquoted => proper_of_unquoted hvalue htrim hquoted _⟩

/-- A column of truth values, one of them quoted and between blanks. -/
def paddedTruth : Table :=
  ⟨[⟨"a", .boolean⟩], [[.boolean true], [.text " TRUE"]]⟩

theorem type_of_fresh_cell_bare :
    let content := "a\n true\n\" TRUE\"\n"
    (Cell.cast " 7" (Cell.inferType [" 7", "2.5"])).type = Cell.inferType [" 7", "2.5"] ∧
      read ',' content = .ok paddedTruth ∧ cellAt? paddedTruth 0 0 = some (.boolean true) ∧
      ∃ f : Field, f.cell .boolean = .boolean true ∧ f.Proper .boolean := by
  intro content
  have htype : Cell.inferType [" 7", "2.5"] = .float := by decide +kernel
  have hread : read ',' content = .ok paddedTruth :=
    Traversal.toOption_eq_some_iff.mp (by decide +kernel)
  obtain ⟨hfresh, hloaded⟩ := type_of_fresh_cell [" 7", "2.5"] ',' content
  refine ⟨?_, hread, rfl, ?_⟩
  · rw [hfresh " 7" List.mem_cons_self (by decide +kernel), htype]
    exact fun hboolean => absurd hboolean (by decide)
  · obtain ⟨-, -, -, f, -, -, -, hcell, hproper, -⟩ :=
      hloaded paddedTruth hread 0 0 ⟨"a", .boolean⟩ (.boolean true) rfl rfl rfl
    exact ⟨f, hcell.symm, hproper.mp rfl⟩

/-- A blank before `true` makes a column of truth values with a text in it, and a quoted `nan` stays
a text in a column of whole numbers. -/
theorem padded_truth_stays_text :
    meansMissing " true" = false ∧ Cell.inferType [" true"] = .boolean ∧
      Cell.cast " true" .boolean = .text " true" ∧
      (Table.empty.add (.ofList [("b", " true")])).changed
        = some ⟨[⟨"b", .boolean⟩], [[.text " true"]]⟩ ∧
      read ',' "a\n5\n\"nan\"\n" = .ok ⟨[⟨"a", .integer⟩], [[.integer 5], [.text "nan"]]⟩ := by
  refine ⟨by decide +kernel, by decide +kernel, by decide +kernel, by decide +kernel, ?_⟩
  exact Traversal.toOption_eq_some_iff.mp (by decide +kernel)

end Delimited
end TableShell
