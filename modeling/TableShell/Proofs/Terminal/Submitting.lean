import TableShell.Proofs.Shell.Wording
import TableShell.Proofs.Terminal.Told
import TableShell.Proofs.Words.Edges

/-!
# Lines that are submitted, and lines that are given

The terminal trims the line in the input box before it carries it out. `submitsAsTyped_iff` says
when this comes to the same as carrying it out as it was typed, as a line is that is given to the
program: unless a blank at an edge of the line makes a difference to its words. Then the terminal
reports an error that the line does not have, and changes nothing.
-/

namespace TableShell
namespace Terminal
namespace Session

/-- Submitting the line in the input box comes to the same as carrying it out as it was typed: the
store becomes the same, and the same is told of it. -/
structure SubmitsAsTyped (s : Session) : Prop where
  store : s.submit.store = (s.store.execute s.input.text).2
  notes : s.submitNotes = .told s.clock .echo ("> " ++ Text.trim s.input.text) ::
    answerNotes (s.store.execute s.input.text).2 s.clock (s.store.execute s.input.text).1

theorem store_reload (s : Session) : s.reload.store = s.store := by
  unfold reload
  split <;> rfl

theorem store_showAnswer (s : Session) (answer : Answer) :
    (s.showAnswer answer).store = s.store := by
  have htold : ((if answer.command = some Command.clear.name then s.clearTranscript else s).tell
      (.outcome answer.report.severity) answer.report.message).store = s.store := by
    split <;> rfl
  cases htable : answer.report.table with
  | some t =>
    simp only [showAnswer, htable]
    exact htold
  | none =>
    simp only [showAnswer, htable]
    rw [store_reload, htold]

/-- What is told first of an answer, unless the transcript is emptied before, is its report. -/
theorem report_of_answerNotes {store : Store} {clock message : String} {answer : Answer}
    {severity : Severity} {more : List Note}
    (h : answerNotes store clock answer = .told clock (.outcome severity) message :: more) :
    answer.report.severity = severity ∧ answer.report.message = message := by
  unfold answerNotes at h
  split at h
  · cases h
  · obtain ⟨hfirst, -⟩ := List.cons.inj h
    injection hfirst with _ hkind hmessage
    injection hkind with hseverity
    exact ⟨hseverity, hmessage⟩

variable {s : Session}

/-- The store after a line that is not blank. -/
theorem store_submit (h : Text.trim s.input.text ≠ "") :
    s.submit.store = (s.store.execute (Text.trim s.input.text)).2 := by
  rw [submit_eq s rfl h, store_showAnswer]

/-- What is told of a line that is not blank. -/
theorem submitNotes_eq (h : Text.trim s.input.text ≠ "") :
    s.submitNotes = .told s.clock .echo ("> " ++ Text.trim s.input.text) ::
      answerNotes (s.store.execute (Text.trim s.input.text)).2 s.clock
        (s.store.execute (Text.trim s.input.text)).1 := by
  unfold submitNotes
  rw [if_neg h]

/-- Where a blank at an edge makes a difference, the trimmed line has an error that the line has
not. -/
theorem exists_error_of_edgeCounts {line : String} (h : Words.EdgeCounts line.toList) :
    ∃ cause, Words.read (Text.trim line) = .error cause ∧ Words.read line ≠ .error cause := by
  obtain ⟨cause, htrim, hline⟩ := h.exists_error
  refine ⟨cause, ?_, fun hread => ?_⟩
  · rw [Words.read_eq_error_iff_scan, Text.toList_trim]
    exact Words.scan_of_outcome htrim
  · exact hline (Words.scan_eq_iff.mp (Words.read_eq_error_iff_scan.mp hread))

/-- If what is told is the same, the line has the error of words that its trimmed form has. -/
theorem SubmitsAsTyped.read_eq_error (h : s.SubmitsAsTyped) (hline : Text.trim s.input.text ≠ "")
    {cause : Words.Error} (htrim : Words.read (Text.trim s.input.text) = .error cause) :
    Words.read s.input.text = .error cause := by
  have hnotes := h.notes
  rw [submitNotes_eq hline, s.store.execute_of_words_error htrim] at hnotes
  have htold := report_of_answerNotes (List.cons.inj hnotes).2.symm
  exact (s.store.tells_words_iff s.input.text cause).mp htold

/-- A line that is not blank comes to the same when it is submitted as when it is carried out as it
was typed exactly if no blank at an edge of it makes a difference to its words. What is told of it
is what comes into the transcript; and where a blank makes a difference, nothing is changed. -/
theorem submitsAsTyped_iff (h : Text.trim s.input.text ≠ "") :
    (s.SubmitsAsTyped ↔ ¬ Words.EdgeCounts s.input.text.toList) ∧
      (∀ log, s.transcript = .ofLog log →
        s.submit.transcript = .ofLog (s.submitNotes.foldl Note.hear log)) ∧
      (Words.EdgeCounts s.input.text.toList → s.submit.store = s.store) := by
  refine ⟨⟨fun hsame hcounts => ?_, fun hcounts => ?_⟩, fun log hlog => ?_, fun hcounts => ?_⟩
  · obtain ⟨cause, htrim, hread⟩ := exists_error_of_edgeCounts hcounts
    exact hread (hsame.read_eq_error h htrim)
  · have hexecute := s.store.execute_congr ((Words.read_trim_eq_iff s.input.text).mpr hcounts)
    constructor
    · rw [store_submit h, hexecute]
    · rw [submitNotes_eq h, hexecute]
  · exact transcript_moves hlog s.moves_submit
  · obtain ⟨cause, htrim, -⟩ := exists_error_of_edgeCounts hcounts
    rw [store_submit h, s.store.execute_of_words_error htrim]

/-- A terminal on an empty table, with the line in its input box. -/
def typed (line : String) : Session :=
  { new (.memory .empty) "09:00:00" with input := .ofString line }

theorem input_typed (line : String) : (typed line).input.text = line :=
  String.ofList_toList

theorem submitsAsTyped_iff_quoted_blank :
    let s := typed "\u3000 add a='b '\t"
    Text.trim s.input.text ≠ "" ∧ s.SubmitsAsTyped ∧
      s.submit.store = .memory ⟨[⟨"a", .text⟩], [[.text "b "]]⟩ := by
  intro s
  have hinput : s.input.text = "\u3000 add a='b '\t" := input_typed _
  have hline : Text.trim s.input.text ≠ "" := by
    rw [hinput]
    decide +kernel
  have hread : Words.read (Text.trim s.input.text) = Words.read s.input.text := by
    rw [hinput]
    decide +kernel
  have hsame : s.SubmitsAsTyped :=
    (submitsAsTyped_iff hline).1.mpr ((Words.read_trim_eq_iff s.input.text).mp hread)
  refine ⟨hline, hsame, ?_⟩
  rw [hsame.store, hinput]
  decide +kernel

/-- A blank that a backslash makes a character of a word is trimmed off: the line is carried out as
it was typed, and refused when it is submitted. -/
theorem escaped_blank_trimmed_off :
    let s := typed "add a=b\\ "
    Text.trim s.input.text ≠ "" ∧
      (s.store.execute s.input.text).1.report.severity = .success ∧
      (s.store.execute s.input.text).2 = .memory ⟨[⟨"a", .text⟩], [[.text "b "]]⟩ ∧
      s.submit.store = .memory .empty ∧
      .told "09:00:00" (.outcome .error) "Parse error: No escaped character" ∈ s.submitNotes ∧
      ¬ s.SubmitsAsTyped := by
  intro s
  have hinput : s.input.text = "add a=b\\ " := input_typed _
  have hexecuted : (s.store.execute s.input.text).2
      = .memory ⟨[⟨"a", .text⟩], [[.text "b "]]⟩ := by
    rw [hinput]
    decide +kernel
  have hsubmitted : s.submit.store = .memory .empty := by decide +kernel
  refine ⟨by decide +kernel, by decide +kernel, hexecuted, hsubmitted, by decide +kernel, ?_⟩
  intro hsame
  have hstore := hsame.store
  rw [hsubmitted, hexecuted] at hstore
  cases hstore

end Session
end Terminal
end TableShell
