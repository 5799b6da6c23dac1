import Mathlib.Data.List.Forall2
import TableShell.Delimited.Reader
import TableShell.Delimited.Writer
import TableShell.Proofs.Cell.Display

/-!
# Reading written fields

What the writer puts down for a field, the reader takes off the text again. As for words of a line,
the notion behind it says what characters stand for wherever they are read: `FieldSpells` at the
beginning of a field, `LineSpells` at the beginning of a record. Fields are put together to a line
by `lineSpells_intercalate`, and lines to a text by `exists_records_of_lineSpells`.
-/

namespace TableShell
namespace Delimited

open Text

/-! ## Single steps of the reader -/

section Steps

variable {delimiter : Char} {r : Reading}

/-- One more character, in full: every step below is a case of this. -/
theorem scan_cons (delimiter : Char) (r : Reading) (c : Char) (rest : List Char) :
    scan delimiter r (c :: rest) =
      if r.inQuotes then
        if c = '"' then
          match rest with
          | '"' :: rest => scan delimiter (r.take '"') rest
          | rest => scan delimiter r.closeQuote rest
        else
          scan delimiter (r.takeQuoted c) rest
      else if c = '"' then
        scan delimiter r.openQuote rest
      else if c = delimiter then
        scan delimiter r.endField rest
      else if c = '\n' then
        (scan delimiter (.fresh (r.line + 1)) rest).map (r.record?.toList ++ ·)
      else if c = '\r' then
        match rest with
        | '\n' :: rest => (scan delimiter (.fresh (r.line + 1)) rest).map (r.record?.toList ++ ·)
        | rest => (scan delimiter (.fresh (r.line + 1)) rest).map (r.record?.toList ++ ·)
      else if r.quoted then
        scan delimiter r rest
      else
        scan delimiter (r.take c) rest :=
  scan.eq_def delimiter r (c :: rest)

theorem scan_take {c : Char} (hquotes : r.inQuotes = false) (hquoted : r.quoted = false)
    (hc : c ≠ '"' ∧ c ≠ delimiter ∧ c ≠ '\n' ∧ c ≠ '\r') (rest : List Char) :
    scan delimiter r (c :: rest) = scan delimiter (r.take c) rest := by
  rw [scan_cons]
  simp only [hquotes, hquoted, hc.1, hc.2.1, hc.2.2.1, hc.2.2.2, Bool.false_eq_true, if_false]

theorem scan_openQuote (hquotes : r.inQuotes = false) (rest : List Char) :
    scan delimiter r ('"' :: rest) = scan delimiter r.openQuote rest := by
  rw [scan_cons]
  simp only [hquotes, Bool.false_eq_true, if_false, if_true]

theorem scan_takeQuoted {c : Char} (hquotes : r.inQuotes = true) (hc : c ≠ '"')
    (rest : List Char) :
    scan delimiter r (c :: rest) = scan delimiter (r.takeQuoted c) rest := by
  rw [scan_cons]
  simp only [hquotes, hc, if_true, if_false]

theorem scan_quoteTwice (hquotes : r.inQuotes = true) (rest : List Char) :
    scan delimiter r ('"' :: '"' :: rest) = scan delimiter (r.take '"') rest := by
  rw [scan_cons]
  simp only [hquotes, if_true]

theorem scan_closeQuote (hquotes : r.inQuotes = true) {rest : List Char}
    (hrest : rest.head? ≠ some '"') :
    scan delimiter r ('"' :: rest) = scan delimiter r.closeQuote rest := by
  rw [scan_cons]
  simp only [hquotes, if_true]
  split
  · exact absurd rfl hrest
  · rfl

theorem scan_delimiter (hquotes : r.inQuotes = false) (hdelimiter : delimiter ≠ '"')
    (rest : List Char) :
    scan delimiter r (delimiter :: rest) = scan delimiter r.endField rest := by
  rw [scan_cons]
  simp only [hquotes, hdelimiter, Bool.false_eq_true, if_false, if_true]

theorem scan_lineBreak (hquotes : r.inQuotes = false) (hdelimiter : delimiter ≠ '\n')
    (rest : List Char) :
    scan delimiter r ('\n' :: rest)
      = (scan delimiter (.fresh (r.line + 1)) rest).map (r.record?.toList ++ ·) := by
  have hquote : '\n' ≠ '"' := by decide
  rw [scan_cons]
  simp only [hquotes, hquote, hdelimiter.symm, Bool.false_eq_true, if_false, if_true]

end Steps

/-! ## Fields -/

/-- The character may stand between fields: it is no quote, ends no line, and does not occur in the
text of a value. -/
structure IsDelimiter (delimiter : Char) : Prop where
  ne_quote : delimiter ≠ '"'
  ne_return : delimiter ≠ '\r'
  ne_newline : delimiter ≠ '\n'
  not_plain : Cell.isPlain delimiter = false

instance (delimiter : Char) : Decidable (IsDelimiter delimiter) :=
  decidable_of_iff
    (delimiter ≠ '"' ∧ delimiter ≠ '\r' ∧ delimiter ≠ '\n' ∧ Cell.isPlain delimiter = false)
    ⟨fun h => ⟨h.1, h.2.1, h.2.2.1, h.2.2.2⟩,
      fun h => ⟨h.ne_quote, h.ne_return, h.ne_newline, h.not_plain⟩⟩

/-- The reading at the beginning of a field, behind the fields `done`, which stand in reverse. -/
def fieldStart (done : List Field) (line start : ℕ) : Reading :=
  ⟨[], false, false, done, line, start⟩

/-- The reading `r` has read the field `f` behind the fields `done`. -/
structure HasRead (r : Reading) (f : Field) (done : List Field) (start : ℕ) : Prop where
  field_eq : r.field = f
  done_eq : r.done = done
  start_eq : r.start = start
  outside : r.inQuotes = false

/-- At the beginning of a field, `written` is read as the field `f`, unless a quote follows. -/
def FieldSpells (delimiter : Char) (written : List Char) (f : Field) : Prop :=
  ∀ (done : List Field) (line start : ℕ) (rest : List Char), rest.head? ≠ some '"' →
    ∃ r, HasRead r f done start ∧
      scan delimiter (fieldStart done line start) (written ++ rest) = scan delimiter r rest

theorem scan_bare {delimiter : Char} {cs : List Char}
    (h : ∀ c ∈ cs, c ≠ '"' ∧ c ≠ delimiter ∧ c ≠ '\n' ∧ c ≠ '\r') :
    ∀ {r : Reading}, r.inQuotes = false → r.quoted = false → ∀ rest : List Char,
      scan delimiter r (cs ++ rest)
        = scan delimiter { r with taken := cs.reverse ++ r.taken } rest := by
  induction cs with
  | nil =>
    intro r _ _ rest
    rfl
  | cons c cs ih =>
    intro r hquotes hquoted rest
    rw [List.forall_mem_cons] at h
    rw [List.cons_append, scan_take hquotes hquoted h.1,
      ih h.2 (show (r.take c).inQuotes = false from hquotes) hquoted, List.reverse_cons,
      List.append_assoc]
    rfl

/-- A bare text is read as it is, unless its edges are blank. -/
theorem fieldSpells_bare {delimiter : Char} {cs : List Char}
    (h : ∀ c ∈ cs, c ≠ '"' ∧ c ≠ delimiter ∧ c ≠ '\n' ∧ c ≠ '\r') (htrim : trimChars cs = cs) :
    FieldSpells delimiter cs ⟨.ofList cs, false⟩ := by
  intro done line start rest _
  refine ⟨{ fieldStart done line start with taken := cs.reverse ++ [] }, ⟨?_, rfl, rfl, rfl⟩,
    scan_bare h rfl rfl rest⟩
  simp only [Reading.field, fieldStart, List.append_nil, List.reverse_reverse,
    Bool.false_eq_true, if_false, htrim]

/-- Behind an opened quote, the escaped characters up to the closing quote are read back. Line
breaks among them count as lines, so the line varies along the induction. -/
theorem scan_escaped {delimiter : Char} (cs : List Char) :
    ∀ {r : Reading}, r.inQuotes = true → ∀ {rest : List Char}, rest.head? ≠ some '"' →
      ∃ line, scan delimiter r (cs.flatMap escapeChar ++ '"' :: rest) = scan delimiter
        { r with taken := cs.reverse ++ r.taken, inQuotes := false, line } rest := by
  induction cs with
  | nil =>
    intro r hquotes rest hrest
    exact ⟨r.line, scan_closeQuote hquotes hrest⟩
  | cons c cs ih =>
    intro r hquotes rest hrest
    rw [List.flatMap_cons, List.append_assoc, escapeChar]
    by_cases hc : c = '"'
    · obtain ⟨line, hline⟩ := ih (show (r.take '"').inQuotes = true from hquotes) hrest
      refine ⟨line, ?_⟩
      rw [if_pos hc, List.cons_append, List.singleton_append, scan_quoteTwice hquotes, hline, hc,
        List.reverse_cons, List.append_assoc]
      rfl
    · obtain ⟨line, hline⟩ := ih (show (r.takeQuoted c).inQuotes = true from hquotes) hrest
      refine ⟨line, ?_⟩
      rw [if_neg hc, List.singleton_append, scan_takeQuoted hquotes hc, hline, List.reverse_cons,
        List.append_assoc]
      rfl

/-- A quoted text is read as it was before it was escaped. -/
theorem fieldSpells_quoted (delimiter : Char) (cs : List Char) :
    FieldSpells delimiter ('"' :: cs.flatMap escapeChar ++ ['"']) ⟨.ofList cs, true⟩ := by
  intro done line start rest hrest
  obtain ⟨line', hline'⟩ := scan_escaped cs
    (show (fieldStart done line start).openQuote.inQuotes = true from rfl) hrest
  refine ⟨⟨cs.reverse, true, false, done, line', start⟩, ⟨?_, rfl, rfl, rfl⟩, ?_⟩
  · simp only [Reading.field, List.reverse_reverse, if_true]
  · rw [List.cons_append, List.cons_append, List.append_assoc, List.singleton_append,
      scan_openQuote rfl, hline']
    simp only [Reading.openQuote, fieldStart, List.append_nil]

/-- The text as a field is read as the text. -/
theorem fieldSpells_escape (delimiter : Char) (s : String) :
    FieldSpells delimiter (escape delimiter s).toList ⟨s, needsQuotes delimiter s⟩ := by
  rw [escape]
  split
  · rename_i hquotes
    have hspells := fieldSpells_quoted delimiter s.toList
    rw [hquotes, String.toList_ofList]
    rwa [String.ofList_toList] at hspells
  · rename_i hquotes
    rw [Bool.eq_false_iff.mpr hquotes]
    simp only [needsQuotes, Bool.or_eq_true, not_or, Bool.not_eq_true, List.contains_eq_mem,
      decide_eq_false_iff_not, bne_eq_false_iff_eq] at hquotes
    obtain ⟨⟨⟨⟨⟨hmissing, hdelimiter⟩, hquote⟩, hnewline⟩, hreturn⟩, htrim⟩ := hquotes
    have hspecial : ∀ c ∈ s.toList, c ≠ '"' ∧ c ≠ delimiter ∧ c ≠ '\n' ∧ c ≠ '\r' := by
      intro c hc
      refine ⟨?_, ?_, ?_, ?_⟩ <;>
      · rintro rfl
        contradiction
    have hspells := fieldSpells_bare hspecial htrim
    rwa [String.ofList_toList] at hspells

/-- A plain text without the delimiter is read as it is. -/
theorem fieldSpells_plain {delimiter : Char} {cs : List Char} (hd : delimiter ∉ cs)
    (h : ∀ c ∈ cs, Cell.isPlain c = true) : FieldSpells delimiter cs ⟨.ofList cs, false⟩ := by
  apply fieldSpells_bare
  · intro c hc
    have hplain := h c hc
    refine ⟨?_, fun heq => hd (heq ▸ hc), ?_, ?_⟩ <;>
    · rintro rfl
      revert hplain
      decide
  · exact trimChars_eq_self fun c hc => Cell.isBlank_of_isPlain (h c hc)

/-! ## Lines -/

/-- At the beginning of a record, `line` and a line break are read as a record of the fields. -/
def LineSpells (delimiter : Char) (line : List Char) (fields : List Field) : Prop :=
  ∀ (n : ℕ) (rest : List Char), ∃ record n', record.fields = fields ∧
    scan delimiter (.fresh n) (line ++ '\n' :: rest)
      = (scan delimiter (.fresh n') rest).map (record :: ·)

/-- Written fields with the delimiter between neighbours are read behind the fields `done`. No
delimiter is written for a single field, so it may be a quote there. -/
theorem scan_intercalate {delimiter : Char} {written : List (List Char)} {fields : List Field}
    (h : List.Forall₂ (FieldSpells delimiter) written fields) (hne : written ≠ [])
    (hquote : 1 < written.length → delimiter ≠ '"') :
    ∀ (done : List Field) (line start : ℕ) {rest : List Char}, rest.head? ≠ some '"' →
      ∃ r : Reading, r.fields = done.reverse ++ fields ∧ r.inQuotes = false ∧
        scan delimiter (fieldStart done line start) ([delimiter].intercalate written ++ rest)
          = scan delimiter r rest := by
  induction h with
  | nil => exact absurd rfl hne
  | @cons w f ws fs hw hws ih =>
    intro done line start rest hrest
    cases hws with
    | nil =>
      obtain ⟨r, hr, hscan⟩ := hw done line start rest hrest
      refine ⟨r, ?_, hr.outside, ?_⟩
      · rw [Reading.fields, hr.field_eq, hr.done_eq, List.reverse_cons]
      · rw [List.intercalate_singleton, hscan]
    | @cons w' f' ws fs hw' hws =>
      have hd : delimiter ≠ '"' := hquote (by simp)
      have hnext : (delimiter :: ([delimiter].intercalate (w' :: ws) ++ rest)).head?
          ≠ some '"' := fun heq => hd (Option.some.inj heq)
      obtain ⟨r, hr, hscan⟩ := hw done line start _ hnext
      obtain ⟨r', hfields, houtside, hscan'⟩ :=
        ih (List.cons_ne_nil _ _) (fun _ => hd) (f :: done) r.line start hrest
      have hend : r.endField = fieldStart (f :: done) r.line start := by
        rw [Reading.endField, hr.field_eq, hr.done_eq, fieldStart, ← hr.start_eq, ← hr.outside]
      refine ⟨r', ?_, houtside, ?_⟩
      · rw [hfields, List.reverse_cons, List.append_assoc]
        rfl
      · rw [List.intercalate_cons_cons, List.append_assoc, List.append_assoc, List.singleton_append,
          hscan, scan_delimiter hr.outside hd, hend, hscan']

/-- A record that is not a blank line. -/
theorem record?_eq_some {r : Reading} (h : r.fields ≠ [.blank]) :
    r.record? = some ⟨r.start, r.fields⟩ := by
  rw [Reading.record?]
  split
  · rename_i heq
    exact absurd heq h
  · rfl

/-- A line of written fields is read as their record. -/
theorem lineSpells_intercalate {delimiter : Char} (hnewline : delimiter ≠ '\n')
    {written : List (List Char)} {fields : List Field}
    (h : List.Forall₂ (FieldSpells delimiter) written fields) (hne : written ≠ [])
    (hquote : 1 < written.length → delimiter ≠ '"') (hblank : fields ≠ [.blank]) :
    LineSpells delimiter ([delimiter].intercalate written) fields := by
  intro n rest
  have hbreak : ('\n' :: rest).head? ≠ some '"' := by simp
  obtain ⟨r, hfields, houtside, hscan⟩ := scan_intercalate h hne hquote [] n n hbreak
  rw [List.reverse_nil, List.nil_append] at hfields
  refine ⟨⟨r.start, fields⟩, r.line + 1, rfl, ?_⟩
  rw [show Reading.fresh n = fieldStart [] n n from rfl, hscan, scan_lineBreak houtside hnewline,
    record?_eq_some (hfields ▸ hblank), hfields]
  rfl

/-- Written lines, each with a line break behind it, are read as their records. -/
theorem exists_records_of_lineSpells {delimiter : Char} {lines : List (List Char)}
    {fieldss : List (List Field)} (h : List.Forall₂ (LineSpells delimiter) lines fieldss) :
    ∀ n : ℕ, ∃ records, records.map Record.fields = fieldss ∧
      scan delimiter (.fresh n) (lines.flatMap (· ++ ['\n'])) = .ok records := by
  induction h with
  | nil =>
    intro n
    exact ⟨[], rfl, rfl⟩
  | @cons line fields lines fieldss hline hlines ih =>
    intro n
    obtain ⟨record, n', hrecord, hscan⟩ := hline n (lines.flatMap (· ++ ['\n']))
    obtain ⟨records, hrecords, hscan'⟩ := ih n'
    refine ⟨record :: records, ?_, ?_⟩
    · rw [List.map_cons, hrecord, hrecords]
    · rw [List.flatMap_cons, List.append_assoc, List.singleton_append, hscan, hscan']
      rfl

end Delimited
end TableShell
