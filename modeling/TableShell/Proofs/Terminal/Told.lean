import TableShell.Proofs.Terminal.Moves

/-!
# What the transcript holds

The log of a session is all that was told since the transcript was last emptied, and nothing of it
is ever dropped. The transcript is the end of the log at every time (`transcript_run`): cutting it
after every text that is told loses no line that a single cut at the end would keep.
-/

namespace TableShell
namespace Terminal

/-- A log that hears one more note. -/
def Note.hear (log : Transcript) : Note → Transcript
  | told time kind text => log ++ (textLines text).map fun line => ⟨time, kind, line⟩
  | wiped => []

namespace Transcript

/-- The last lines of a log. -/
def ofLog (log : Transcript) : Transcript :=
  log.drop (log.length - limit)

theorem length_ofLog_le (log : Transcript) : (ofLog log).length ≤ limit := by
  rw [ofLog, List.length_drop]
  omega

/-- Lines that are cut off do not come back behind more lines. -/
theorem ofLog_append (log lines : Transcript) : ofLog (ofLog log ++ lines) = ofLog (log ++ lines) := by
  unfold ofLog
  -- what the first cut takes away, the cut at the end takes away as well
  generalize hcut : log.length - limit = cut
  have hle : cut ≤ log.length := by omega
  rw [← List.drop_append_of_le_length hle, List.drop_drop, List.length_drop, List.length_append]
  congr 1
  omega

theorem push_ofLog (log : Transcript) (time : String) (kind : LineKind) (text : String) :
    (ofLog log).push time kind text = ofLog (Note.hear log (.told time kind text)) :=
  ofLog_append log _

end Transcript

namespace Session

variable {s s' : Session} {notes : List Note} {log : Transcript}

theorem transcript_move (h : s.transcript = .ofLog log) (hmove : s.Move notes s') :
    s'.transcript = .ofLog (notes.foldl Note.hear log) := by
  cases hmove with
  | told kind text =>
    rw [tell, h]
    exact Transcript.push_ofLog log _ _ _
  | wiped => rfl
  | _ => exact h

theorem transcript_moves (h : s.transcript = .ofLog log) (hmoves : s.Moves notes s') :
    s'.transcript = .ofLog (notes.foldl Note.hear log) := by
  induction hmoves generalizing log with
  | refl s => exact h
  | next hmove _ ih =>
    rw [List.foldl_append]
    exact ih (transcript_move h hmove)

/-- The log after all the events. -/
def logAfter (s : Session) (log : Transcript) : List Event → Transcript
  | [] => log
  | event :: events => logAfter (s.step event) ((s.eventNotes event).foldl Note.hear log) events

/-- The log of a new session after all the events. -/
def logOf (store : Store) (clock : String) (events : List Event) : Transcript :=
  (new store clock).logAfter ((loadNotes store clock).foldl Note.hear []) events

theorem transcript_step (h : s.transcript = .ofLog log) (event : Event) :
    (s.step event).transcript = .ofLog ((s.eventNotes event).foldl Note.hear log) := by
  cases event with
  | press key => exact transcript_moves h (s.moves_press key)
  | reply text => exact transcript_moves h (s.moves_submitReply text)
  | stored store => exact h
  | clock time => exact h

theorem transcript_logAfter (h : s.transcript = .ofLog log) (events : List Event) :
    (s.run events).transcript = .ofLog (s.logAfter log events) := by
  induction events generalizing s log with
  | nil => exact h
  | cons event events ih =>
    rw [run_cons, logAfter]
    exact ih (transcript_step h event)

/-- At every time, the transcript is the end of all that was told since it was last emptied. -/
theorem transcript_run (store : Store) (clock : String) (events : List Event) :
    ((new store clock).run events).transcript = .ofLog (logOf store clock events) := by
  have hblank : (blank store clock).transcript = .ofLog [] := rfl
  apply transcript_logAfter
  rw [new_eq]
  exact transcript_moves hblank (moves_reload _)

end Session
end Terminal
end TableShell
