import TableShell.Proofs.Delimited.Stepping

/-!
# Texts with other line ends

A line may end in a line feed, in a carriage return, or in both. Which of them it is makes no
difference outside of quotes: the run over the text with other line ends takes more or other steps,
but stands where the first run stands whenever a line feed of the first text is behind it
(`settle_run_withEnds`). The two differ in nothing but a line feed that a carriage return may wait
for, and that does not come.
-/

namespace TableShell
namespace Delimited

/-- The characters, with `lineEnd` for every line feed outside of quotes. -/
def withEnds (lineEnd : List Char) : (inQuotes : Bool) → List Char → List Char
  | _, [] => []
  | inQuotes, c :: rest =>
    (if c = '\n' ∧ inQuotes = false then lineEnd else [c]) ++
      -- a quote opens or closes quotes
      withEnds lineEnd (inQuotes != decide (c = '"')) rest

/-- The text, with `lineEnd` for every line feed outside of quotes. -/
def replaceEnds (lineEnd s : String) : String :=
  .ofList (withEnds lineEnd.toList false s.toList)

namespace Progress

variable {delimiter : Char} {p : Progress} {c : Char}

/-- The same, not waiting for the second half of a line break. -/
def settle (p : Progress) : Progress :=
  if p.pending = .carriage then { p with pending := .nothing } else p

theorem reading_settle (p : Progress) : p.settle.reading = p.reading := by
  rw [settle]
  split <;> rfl

theorem finish_settle (p : Progress) : p.settle.finish = p.finish := by
  rw [settle]
  split <;> rfl

/-- Only a line feed outside of quotes could tell whether it was waited for. -/
theorem settle_step (hreturn : c ≠ '\r') (hc : c = '\n' → p.reading.inQuotes = true) :
    (step delimiter p c).settle = step delimiter p.settle c := by
  have hsame : step delimiter p.settle c = step delimiter p c := by
    rw [settle]
    split
    · rename_i hpending
      cases hinside : p.reading.inQuotes with
      | true => simp [step, hinside]
      | false =>
        have hnewline : c ≠ '\n' := fun h => Bool.false_ne_true (hinside.symm.trans (hc h))
        simp [step, hinside, hpending, hnewline, endRecord]
    · rfl
  have hstep := step_spec delimiter p c
  rw [hsame]
  generalize step delimiter p c = q at hstep
  cases hstep with
  | endRecord outside hc' hdelimiter hfirst =>
    rcases hc' with rfl | rfl
    · rfl
    · exact absurd rfl hreturn
  | _ => rfl

section Ends

variable (hdelimiter : delimiter ≠ '\n' ∧ delimiter ≠ '\r')
include hdelimiter

/-- A line feed ends the record, waited for or not. -/
theorem step_newline (houtside : p.reading.inQuotes = false) :
    step delimiter p.settle '\n' = p.endRecord .nothing := by
  rw [settle]
  split
  · simp [step, houtside, hdelimiter.1.symm, endRecord]
  · rename_i hpending
    simp [step, houtside, hpending, hdelimiter.1.symm]

theorem settle_run_return (houtside : p.reading.inQuotes = false) :
    (run delimiter p ['\r']).settle = step delimiter p.settle '\n' := by
  rw [step_newline hdelimiter houtside]
  simp [run, step, houtside, hdelimiter.2.symm, settle, endRecord]

theorem settle_run_returnNewline (houtside : p.reading.inQuotes = false) :
    (run delimiter p ['\r', '\n']).settle = step delimiter p.settle '\n' := by
  rw [step_newline hdelimiter houtside]
  simp [run, step, houtside, hdelimiter.2.symm, settle, endRecord, Reading.fresh]

end Ends

/-- If `lineEnd` does what a line feed does, then in all places outside of quotes. -/
theorem settle_run_withEnds {lineEnd : List Char}
    (hend : ∀ p : Progress, p.reading.inQuotes = false →
      (run delimiter p lineEnd).settle = step delimiter p.settle '\n') :
    ∀ {cs : List Char}, '\r' ∉ cs → ∀ p : Progress,
      (run delimiter p (withEnds lineEnd p.reading.inQuotes cs)).settle
        = run delimiter p.settle cs := by
  intro cs
  induction cs with
  | nil => exact fun _ p => rfl
  | cons c cs ih =>
    intro hcs p
    rw [List.mem_cons, not_or] at hcs
    rw [withEnds, run_append, run_cons, ← (step_spec delimiter p c).inQuotes]
    split
    · rename_i hc
      obtain ⟨rfl, houtside⟩ := hc
      -- the line end is taken as a whole; behind it the runs agree again
      have hafter := hend p houtside
      have hquotes : (run delimiter p lineEnd).reading.inQuotes
          = (step delimiter p '\n').reading.inQuotes := by
        rw [← reading_settle, hafter, (step_spec delimiter _ _).inQuotes,
          (step_spec delimiter _ _).inQuotes, reading_settle]
      rw [← hafter, ← ih hcs.2, hquotes]
    · rename_i hc
      have hinside : c = '\n' → p.reading.inQuotes = true := by
        intro hnewline
        rw [not_and, Bool.not_eq_false] at hc
        exact hc hnewline
      rw [run_cons, run_nil, ← settle_step (Ne.symm hcs.1) hinside, ih hcs.2]

end Progress

open Progress

/-- A text that has no carriage returns holds the same with others for its line feeds outside of
quotes, alone or before a line feed. -/
theorem read_replaceEnds {delimiter : Char}
    (hdelimiter : delimiter ≠ '\n' ∧ delimiter ≠ '\r') {s : String}
    (hs : '\r' ∉ s.toList) :
    read delimiter (replaceEnds "\r\n" s) = read delimiter s ∧
      read delimiter (replaceEnds "\r" s) = read delimiter s := by
  have hsame : ∀ lineEnd : String, (∀ p : Progress, p.reading.inQuotes = false →
      (run delimiter p lineEnd.toList).settle = step delimiter p.settle '\n') →
      read delimiter (replaceEnds lineEnd s) = read delimiter s := by
    intro lineEnd hend
    have hrun := settle_run_withEnds hend hs start
    have hrecords : records delimiter (replaceEnds lineEnd s) = records delimiter s := by
      rw [records_eq, records_eq, replaceEnds, String.toList_ofList, ← finish_settle]
      exact congrArg finish hrun
    rw [read, hrecords, read]
  exact ⟨hsame "\r\n" fun p => settle_run_returnNewline hdelimiter,
    hsame "\r" fun p => settle_run_return hdelimiter⟩

/-- A line feed inside of quotes stays, and blank lines are skipped in either form. -/
theorem read_replaceEnds_two_lines :
    let s := "a,b\n\"x\ny\",1\n\n2"
    (',' ≠ '\n' ∧ ',' ≠ '\r') ∧ '\r' ∉ s.toList ∧
      replaceEnds "\r\n" s = "a,b\r\n\"x\ny\",1\r\n\r\n2" ∧
      replaceEnds "\r" s = "a,b\r\"x\ny\",1\r\r2" ∧
      read ',' "a,b\r\n\"x\ny\",1\r\n\r\n2" = read ',' s ∧
      read ',' "a,b\r\"x\ny\",1\r\r2" = read ',' s := by
  intro s
  have hcomma : ',' ≠ '\n' ∧ ',' ≠ '\r' := by decide
  have hs : '\r' ∉ s.toList := by decide
  have hboth : replaceEnds "\r\n" s = "a,b\r\n\"x\ny\",1\r\n\r\n2" := by decide +kernel
  have hreturn : replaceEnds "\r" s = "a,b\r\"x\ny\",1\r\r2" := by decide +kernel
  obtain ⟨hread, hread'⟩ := read_replaceEnds hcomma hs
  rw [hboth] at hread
  rw [hreturn] at hread'
  exact ⟨hcomma, hs, hboth, hreturn, hread, hread'⟩

end Delimited
end TableShell
