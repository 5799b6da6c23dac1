import TableShell.Proofs.Delimited.Stepping

/-!
# A line break at the end of a text

A line break behind the last line ends a record that would end there anyway, so the text holds the
same table without it. The one exception is a last line of blanks: it is skipped where a line break
ends it, and makes one more record where the text ends (`records_append_newline_of_blanks`). Whether
a text ends so is said on its characters alone (`EndsInBlanks`).
-/

namespace TableShell
namespace Delimited

open Text

/-- What follows the characters begins a line: they end with a line break that is not in quotes, if
there are any. -/
def EndsLine (cs : List Char) : Prop :=
  Even (cs.count '"') ∧ ∀ c ∈ cs.getLast?, c = '\n' ∨ c = '\r'

/-- The characters end in a line of blanks, at least one, that no line break ends. -/
def EndsInBlanks (delimiter : Char) (cs : List Char) : Prop :=
  ∃ front line, cs = front ++ line ∧ EndsLine front ∧ line ≠ [] ∧
    ∀ c ∈ line, isBlank c = true ∧ c ≠ delimiter ∧ c ≠ '\n' ∧ c ≠ '\r'

/-- Of the record at hand no more has been read than a part of a field without quotes. -/
structure Reading.Bare (r : Reading) : Prop where
  outside : r.inQuotes = false
  unquoted : r.quoted = false
  noFields : r.done = []

namespace Progress

variable {delimiter : Char} {p : Progress} {cs : List Char}

/-! ## The last line -/

theorem endsLine_concat_iff {c : Char} :
    EndsLine (cs ++ [c]) ↔ Even (cs.count '"') ∧ (c = '\n' ∨ c = '\r') := by
  simp only [EndsLine, List.getLast?_concat, Option.mem_some_iff, forall_eq']
  refine and_congr_left fun hc => ?_
  have hquote : [c].count '"' = 0 := by
    rcases hc with rfl | rfl <;> decide
  rw [List.count_append, hquote, Nat.add_zero]

/-- A line break ends a line where no quotes are open. -/
theorem endsLine_concat_iff_run {c : Char} : EndsLine (cs ++ [c]) ↔
    (run delimiter start cs).reading.inQuotes = false ∧ (c = '\n' ∨ c = '\r') := by
  rw [endsLine_concat_iff, inQuotes_run_iff (show start.reading.inQuotes = false from rfl)]

/-- If the record at hand is bare, the characters of its field are the last line of the text. -/
theorem exists_line_of_bare (cs : List Char) (hbare : (run delimiter start cs).reading.Bare) :
    ∃ front, cs = front ++ (run delimiter start cs).reading.taken.reverse ∧ EndsLine front ∧
      ∀ c ∈ (run delimiter start cs).reading.taken,
        c ≠ '"' ∧ c ≠ delimiter ∧ c ≠ '\n' ∧ c ≠ '\r' := by
  induction cs using List.reverseRecOn with
  | nil => exact ⟨[], rfl, ⟨Even.zero, by simp⟩, List.forall_mem_nil _⟩
  | append_singleton cs c ih =>
    have hends : EndsLine (cs ++ [c]) ↔
        (run delimiter start cs).reading.inQuotes = false ∧ (c = '\n' ∨ c = '\r') :=
      endsLine_concat_iff_run
    have hsound : Sound (run delimiter start cs) := sound_start.run cs
    rw [run_concat] at hbare ⊢
    generalize run delimiter start cs = p at hbare hsound ih hends
    have hstep := step_spec delimiter p c
    generalize step delimiter p c = q at hbare hstep
    obtain ⟨houtside, hunquoted, hnoFields⟩ := hbare
    cases hstep with
    | closeQuote inside hc =>
      exact absurd (hunquoted.symm.trans (hsound.quoted inside)) Bool.false_ne_true
    | takeQuoted inside hc => exact absurd (houtside.symm.trans inside) Bool.false_ne_true
    | reopen outside hc hpending => cases houtside
    | openQuote outside hc hpending => cases houtside
    | secondHalf outside hpending hc =>
      -- the line ends with the second half of its break, and nothing was read behind the first
      obtain ⟨n, hfresh⟩ := hsound.pending_carriage hpending
      refine ⟨cs ++ [c], ?_, hends.mpr ⟨outside, Or.inl hc⟩, ?_⟩
      · simp [hfresh, Reading.fresh]
      · simp [hfresh, Reading.fresh]
    | endField outside hc hquote hfirst => cases hnoFields
    | endRecord outside hc hdelimiter hfirst =>
      exact ⟨cs ++ [c], (List.append_nil _).symm, hends.mpr ⟨outside, hc⟩,
        List.forall_mem_nil _⟩
    | ignore outside hquoted hc => exact absurd hquoted (by simpa using hunquoted)
    | take outside hquoted hc =>
      obtain ⟨front, hfront, hline, hplain⟩ := ih ⟨outside, hquoted, hnoFields⟩
      refine ⟨front, ?_, hline, List.forall_mem_cons.mpr ⟨hc, hplain⟩⟩
      rw [Reading.take, List.reverse_cons, ← List.append_assoc, ← hfront]

/-- At the beginning of a line nothing has been read of a record. -/
theorem exists_fresh_of_endsLine (hdelimiter : delimiter ≠ '\n' ∧ delimiter ≠ '\r')
    (h : EndsLine cs) : ∃ n, (run delimiter start cs).reading = .fresh n := by
  induction cs using List.reverseRecOn with
  | nil => exact ⟨1, rfl⟩
  | append_singleton cs c _ =>
    obtain ⟨houtside, hc⟩ := endsLine_concat_iff_run.mp h
    have hsound : Sound (run delimiter start cs) := sound_start.run cs
    rw [run_concat]
    generalize run delimiter start cs = p at houtside hsound
    have hstep := step_spec delimiter p c
    generalize step delimiter p c = q at hstep
    have hnotQuote : c ≠ '"' := by
      rcases hc with rfl | rfl <;> decide
    cases hstep with
    | closeQuote inside hc' => exact absurd hc' hnotQuote
    | takeQuoted inside hc' => exact absurd inside (by simpa using houtside)
    | reopen outside hc' hpending => exact absurd hc' hnotQuote
    | openQuote outside hc' hpending => exact absurd hc' hnotQuote
    | secondHalf outside hpending hc' => exact hsound.pending_carriage hpending
    | endField outside hc' hquote' hfirst =>
      rcases hc with rfl | rfl
      · exact absurd hc'.symm hdelimiter.1
      · exact absurd hc'.symm hdelimiter.2
    | endRecord outside hc' hdelimiter' hfirst => exact ⟨_, rfl⟩
    | ignore outside hquoted hc' => rcases hc with rfl | rfl <;> simp at hc'
    | take outside hquoted hc' => rcases hc with rfl | rfl <;> simp at hc'

/-- Characters that mean nothing by themselves are taken one after the other. -/
theorem reading_run_plain (h : ∀ c ∈ cs, c ≠ '"' ∧ c ≠ delimiter ∧ c ≠ '\n' ∧ c ≠ '\r')
    (houtside : p.reading.inQuotes = false) (hunquoted : p.reading.quoted = false) :
    (run delimiter p cs).reading = { p.reading with taken := cs.reverse ++ p.reading.taken } := by
  induction cs generalizing p with
  | nil => rfl
  | cons c cs ih =>
    rw [List.forall_mem_cons] at h
    obtain ⟨⟨hquote, hdelimiter, hnewline, hreturn⟩, hcs⟩ := h
    have hstep : step delimiter p c = ⟨p.records, p.reading.take c, .nothing⟩ := by
      simp [step, houtside, hunquoted, hquote, hdelimiter, hnewline, hreturn]
    have hrest := ih (p := ⟨p.records, p.reading.take c, .nothing⟩) hcs houtside hunquoted
    rw [run_cons, hstep, hrest, List.reverse_cons, List.append_assoc]
    rfl

/-- The text ends in a line of blanks exactly if they are what has been read of a record. -/
theorem endsInBlanks_iff (hdelimiter : delimiter ≠ '\n' ∧ delimiter ≠ '\r') :
    EndsInBlanks delimiter cs ↔ (run delimiter start cs).reading.Bare ∧
      (run delimiter start cs).reading.taken ≠ [] ∧
      ∀ c ∈ (run delimiter start cs).reading.taken, isBlank c = true := by
  constructor
  · rintro ⟨front, line, rfl, hfront, hne, hline⟩
    obtain ⟨n, hfresh⟩ := exists_fresh_of_endsLine hdelimiter hfront
    have hplain : ∀ c ∈ line, c ≠ '"' ∧ c ≠ delimiter ∧ c ≠ '\n' ∧ c ≠ '\r' := by
      intro c hc
      refine ⟨?_, (hline c hc).2⟩
      rintro rfl
      exact absurd (hline _ hc).1 (by decide)
    have hread := reading_run_plain (p := run delimiter start front) hplain
      (by rw [hfresh]; rfl) (by rw [hfresh]; rfl)
    rw [hfresh] at hread
    rw [run_append, hread]
    refine ⟨⟨rfl, rfl, rfl⟩, ?_, fun c hc => ?_⟩
    · simpa [Reading.fresh] using hne
    · have hmem : c ∈ line := by simpa [Reading.fresh] using hc
      exact (hline c hmem).1
  · rintro ⟨hbare, hne, hblank⟩
    obtain ⟨front, hcs, hfront, hplain⟩ := exists_line_of_bare cs hbare
    refine ⟨front, _, hcs, hfront, by simpa using hne, fun c hc => ?_⟩
    have hmem := List.mem_reverse.mp hc
    exact ⟨hblank c hmem, (hplain c hmem).2⟩

/-- Behind a line break there are no blanks yet. -/
theorem not_endsInBlanks_concat (cs : List Char) {c : Char} (hc : c = '\n' ∨ c = '\r') :
    ¬ EndsInBlanks delimiter (cs ++ [c]) := by
  rintro ⟨front, line, hcs, -, hne, hline⟩
  have hlast := congrArg List.getLast? hcs
  rw [List.getLast?_concat, List.getLast?_append_of_ne_nil _ hne] at hlast
  have hnot := (hline c (List.mem_of_getLast? hlast.symm)).2.2
  rcases hc with rfl | rfl
  · exact hnot.1 rfl
  · exact hnot.2 rfl

/-! ## The record that ends -/

/-- A record is a blank line exactly if it has one field, without quotes and of blanks alone. -/
theorem fields_eq_blank_iff {r : Reading} (houtside : r.inQuotes = false) :
    r.fields = [.blank] ↔ r.Bare ∧ ∀ c ∈ r.taken, isBlank c = true := by
  have htrim : trimChars r.taken.reverse = [] ↔ ∀ c ∈ r.taken, isBlank c = true := by
    rw [trimChars_eq_nil_iff, List.all_reverse, List.all_eq_true]
  rw [← htrim]
  constructor
  · intro hblank
    rw [Reading.fields, List.reverse_eq_iff, List.reverse_singleton, List.cons.injEq] at hblank
    obtain ⟨hfield, hnoFields⟩ := hblank
    have hunquoted : r.quoted = false := congrArg Field.quoted hfield
    have htext : String.ofList (trimChars r.taken.reverse) = "" := by
      have h := congrArg Field.text hfield
      rwa [Reading.field, hunquoted, if_neg Bool.false_ne_true] at h
    exact ⟨⟨houtside, hunquoted, hnoFields⟩, by simpa using congrArg String.toList htext⟩
  · rintro ⟨hbare, hnil⟩
    simp only [Reading.fields, Reading.field, hbare.unquoted, hbare.noFields, hnil]
    rfl

/-- Unless the line is one of blanks, the record that ends at a line break is the one that would end
with the text. -/
theorem record?_eq_lastRecord? {r : Reading} (houtside : r.inQuotes = false)
    (h : ¬ (r.Bare ∧ r.taken ≠ [] ∧ ∀ c ∈ r.taken, isBlank c = true)) :
    r.record? = r.lastRecord? := by
  by_cases hfields : r.fields = [.blank]
  · obtain ⟨hbare, hblank⟩ := (fields_eq_blank_iff houtside).mp hfields
    have hnil : r.taken = [] := by
      by_contra hne
      exact h ⟨hbare, hne, hblank⟩
    rw [Reading.record?, hfields, Reading.lastRecord?,
      if_pos ⟨hnil, hbare.unquoted, hbare.noFields⟩]
    rfl
  · have hsome : ¬ (r.taken = [] ∧ r.quoted = false ∧ r.done = []) := by
      rintro ⟨hnil, hunquoted, hnoFields⟩
      exact hfields ((fields_eq_blank_iff houtside).mpr
        ⟨⟨houtside, hunquoted, hnoFields⟩, by rw [hnil]; exact List.forall_mem_nil _⟩)
    rw [record?_eq_some hfields, Reading.lastRecord?, if_neg hsome]

/-- The records of a text with one more line break. -/
theorem finish_step_newline (hsound : Sound p) (hdelimiter : delimiter ≠ '\n') :
    (step delimiter p '\n').finish = if p.reading.inQuotes then
      .error (.unclosedQuote p.reading.start) else .ok (p.records ++ p.reading.record?.toList) := by
  have hstep := step_spec delimiter p '\n'
  generalize step delimiter p '\n' = q at hstep
  cases hstep with
  | takeQuoted inside hc =>
    have hinside : (p.reading.takeQuoted '\n').inQuotes = true := inside
    rw [finish, if_pos hinside, if_pos inside]
    rfl
  | secondHalf outside hpending hc =>
    obtain ⟨n, hfresh⟩ := hsound.pending_carriage hpending
    rw [finish, hfresh]
    rfl
  | endRecord outside hc hdelimiter' hfirst =>
    rw [outside, finish]
    simp [Progress.endRecord, Reading.fresh, Reading.lastRecord?]
  | closeQuote inside hc => cases hc
  | reopen outside hc hpending => cases hc
  | openQuote outside hc hpending => cases hc
  | endField outside hc hquote hfirst => exact absurd hc.symm hdelimiter
  | ignore outside hquoted hc => exact absurd rfl hc.2.2.1
  | take outside hquoted hc => exact absurd rfl hc.2.2.1

end Progress

/-! ## Records and tables -/

section Texts

open Progress

variable {delimiter : Char}

theorem records_append_newline (delimiter : Char) (s : String) :
    records delimiter (s ++ "\n")
      = (step delimiter (run delimiter start s.toList) '\n').finish := by
  rw [records_eq, String.toList_append, ← run_concat]
  rfl

/-- A text that does not end in a line of blanks has the same records with a line break behind
it. -/
theorem records_append_newline_of_not_blanks (hdelimiter : delimiter ≠ '\n' ∧ delimiter ≠ '\r')
    {s : String} (h : ¬ EndsInBlanks delimiter s.toList) :
    records delimiter (s ++ "\n") = records delimiter s := by
  rw [endsInBlanks_iff hdelimiter] at h
  rw [records_append_newline, finish_step_newline (sound_start.run _) hdelimiter.1, records_eq,
    finish]
  split
  · rfl
  · rename_i houtside
    rw [Bool.not_eq_true] at houtside
    rw [record?_eq_lastRecord? houtside h]

/-- A text that ends in a line of blanks has one more record than with a line break behind it. -/
theorem records_append_newline_of_blanks (hdelimiter : delimiter ≠ '\n' ∧ delimiter ≠ '\r')
    {s : String} (h : EndsInBlanks delimiter s.toList) :
    ∃ rs n, records delimiter (s ++ "\n") = .ok rs ∧
      records delimiter s = .ok (rs ++ [⟨n, [.blank]⟩]) := by
  obtain ⟨hbare, htaken, hblank⟩ := (endsInBlanks_iff hdelimiter).mp h
  rw [records_append_newline, finish_step_newline (sound_start.run _) hdelimiter.1, records_eq,
    finish]
  generalize run delimiter start s.toList = p at hbare htaken hblank
  have hfields : p.reading.fields = [.blank] :=
    (fields_eq_blank_iff hbare.outside).mpr ⟨hbare, hblank⟩
  have hnone : p.reading.record? = none := by
    rw [Reading.record?, hfields]
    rfl
  have hsome : p.reading.lastRecord? = some ⟨p.reading.start, [.blank]⟩ := by
    rw [Reading.lastRecord?, if_neg fun hall => htaken hall.1, hfields]
  refine ⟨p.records, p.reading.start, ?_, ?_⟩
  · rw [hbare.outside, hnone]
    simp
  · rw [hbare.outside, hsome]
    rfl

/-- One more blank record makes another table, or one where there was none. -/
theorem ofRecords_concat_blank {rs : List Record} {n : ℕ}
    (hfields : ∀ record ∈ rs, record.fields ≠ []) :
    ofRecords rs = ofRecords (rs ++ [⟨n, [.blank]⟩]) ↔
      ∃ e, ofRecords (rs ++ [⟨n, [.blank]⟩]) = .error e := by
  cases rs with
  | nil =>
    -- the blank record is a header of one name
    have hnone : ofRecords [] = .error .emptyText := rfl
    have hsome : ofRecords ([] ++ [⟨n, [.blank]⟩]) = .ok (tableOf [""] []) := rfl
    rw [hnone, hsome]
    exact iff_of_false nofun (by rintro ⟨e, ⟨⟩⟩)
  | cons header body =>
    have hwidth : (header.fields.map Field.text).length ≠ 0 := by
      rw [List.length_map, Ne, List.length_eq_zero_iff]
      exact hfields header List.mem_cons_self
    rw [List.cons_append, ofRecords, ofRecords]
    generalize header.fields.map Field.text = names at hwidth
    cases repeatedName? [] names with
    | some name => exact iff_of_true rfl ⟨_, rfl⟩
    | none =>
      have hblank : fillUp names.length ⟨n, [.blank]⟩
          = .ok ([.blank] ++ List.replicate (names.length - 1) .blank) :=
        fillUp_eq_ok_iff.mpr ⟨Nat.one_le_iff_ne_zero.mpr hwidth, rfl⟩
      rw [List.mapM_append, List.mapM_cons, List.mapM_nil, hblank]
      cases body.mapM (fillUp names.length) with
      | error e => exact iff_of_true rfl ⟨e, rfl⟩
      | ok rows =>
        -- both are tables, of which one has a row more
        refine iff_of_false (fun hsame => ?_) (by rintro ⟨e, ⟨⟩⟩)
        have hrows := congrArg (fun t : Table => t.rows.length) (Except.ok.inj hsame)
        simp [tableOf] at hrows

/-- A text with a line break behind it is read as without, exactly if it does not end in a line of
blanks, or is no table for other reasons. -/
theorem read_append_newline_iff {delimiter : Char}
    (hdelimiter : delimiter ≠ '\n' ∧ delimiter ≠ '\r') (s : String) :
    read delimiter (s ++ "\n") = read delimiter s ↔
      (EndsInBlanks delimiter s.toList → ∃ e, read delimiter s = .error e) := by
  by_cases h : EndsInBlanks delimiter s.toList
  · obtain ⟨rs, n, hbreak, hend⟩ := records_append_newline_of_blanks hdelimiter h
    have hfields := forall_fields_of_scan (P := fun _ => True) (fun _ => trivial)
      (fun _ _ => trivial) hbreak
    rw [read, read, hbreak, hend, forall_prop_of_true h]
    exact ofRecords_concat_blank fun record hrecord => (hfields record hrecord).1
  · rw [read, read, records_append_newline_of_not_blanks hdelimiter h]
    exact iff_of_true rfl fun hends => absurd hends h

/-- A line break that is there already needs no other behind it, and a blank last line does. -/
theorem read_append_newline_iff_blank_line :
    (',' ≠ '\n' ∧ ',' ≠ '\r') ∧
      read ',' ("a\n1\n \n" ++ "\n") = read ',' "a\n1\n \n" ∧
      read ',' ("a\n1\n " ++ "\n") ≠ read ',' "a\n1\n " := by
  have hcomma : ',' ≠ '\n' ∧ ',' ≠ '\r' := by decide
  refine ⟨hcomma, ?_, ?_⟩
  · have hends : ¬ EndsInBlanks ',' ("a\n1\n ".toList ++ ['\n']) :=
      not_endsInBlanks_concat _ (Or.inl rfl)
    exact (read_append_newline_iff hcomma _).mpr fun h => absurd h hends
  · have hends : EndsInBlanks ',' "a\n1\n ".toList :=
      ⟨"a\n1\n".toList, [' '], rfl, ⟨by decide, by simp⟩, by decide, by simp; decide⟩
    have hread : read ',' "a\n1\n " = .ok ⟨[⟨"a", .integer⟩], [[.integer 1], [.missing]]⟩ :=
      Traversal.toOption_eq_some_iff.mp (by decide +kernel)
    intro hsame
    obtain ⟨e, he⟩ := (read_append_newline_iff hcomma _).mp hsame hends
    rw [hread] at he
    cases he

/-- A last line of one blank is a row with a missing cell, which it is not with a line break behind
it. -/
theorem blank_last_line_is_row :
    let s := "a\n1\n "
    read ',' s = .ok ⟨[⟨"a", .integer⟩], [[.integer 1], [.missing]]⟩ ∧
      read ',' (s ++ "\n") = .ok ⟨[⟨"a", .integer⟩], [[.integer 1]]⟩ ∧
      read ',' (s ++ "\n") ≠ read ',' s := by
  intro s
  have hend : read ',' s = .ok ⟨[⟨"a", .integer⟩], [[.integer 1], [.missing]]⟩ :=
    Traversal.toOption_eq_some_iff.mp (by decide +kernel)
  have hbreak : read ',' (s ++ "\n") = .ok ⟨[⟨"a", .integer⟩], [[.integer 1]]⟩ :=
    Traversal.toOption_eq_some_iff.mp (by decide +kernel)
  refine ⟨hend, hbreak, ?_⟩
  rw [hend, hbreak]
  intro hsame
  have hrows := congrArg (fun t : Table => t.rows.length) (Except.ok.inj hsame)
  cases hrows

end Texts

end Delimited
end TableShell
