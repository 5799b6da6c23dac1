import Mathlib.Tactic.Common
import TableShell.Terminal.Key

/-!
# What happens at the terminal

Keys are pressed, agents reply, others write to the file, and time goes by: `Session.run` follows a
session through any sequence of such events, and what a new session has and every event keeps, it
has at every time (`Session.run_induction`). What commands answer is shown, and reaches neither the
input line nor the history (`KeepsInput`).
-/

namespace TableShell
namespace Terminal

/-- What can happen while the terminal runs. -/
inductive Event
  | press (key : Key)
  /-- The reply of an agent is run. -/
  | reply (text : String)
  /-- From outside, the store becomes another one, whatever it holds and whether it can be read. -/
  | stored (store : Store)
  | clock (time : String)

namespace Session

/-- The session after an event. -/
def step (s : Session) : Event → Session
  | .press key => s.press key
  | .reply text => s.submitReply text
  | .stored store => { s with store }
  | .clock time => { s with clock := time }

/-- The session after all the events. -/
def run (s : Session) (events : List Event) : Session :=
  events.foldl step s

theorem run_cons (s : Session) (event : Event) (events : List Event) :
    s.run (event :: events) = (s.step event).run events := rfl

/-- What every event keeps, a session has at every time. -/
theorem run_induction {P : Session → Prop} (hstep : ∀ s event, P s → P (s.step event))
    {s : Session} (h : P s) (events : List Event) : P (s.run events) := by
  induction events generalizing s with
  | nil => exact h
  | cons event events ih =>
    rw [run_cons]
    exact ih (hstep s event h)

/-! ## What is told and shown -/

/-- Both sessions have the same text in the input line and at the foot of the screen, the same mode
and focus, and the same history. -/
structure KeepsInput (s s' : Session) : Prop where
  input : s'.input = s.input
  mode : s'.mode = s.mode
  focus : s'.focus = s.focus
  buffer : s'.buffer = s.buffer
  history : s'.history = s.history

namespace KeepsInput

variable {s s' s'' : Session}

theorem refl (s : Session) : KeepsInput s s :=
  ⟨rfl, rfl, rfl, rfl, rfl⟩

theorem trans (h : KeepsInput s s') (h' : KeepsInput s' s'') : KeepsInput s s'' where
  input := h'.input.trans h.input
  mode := h'.mode.trans h.mode
  focus := h'.focus.trans h.focus
  buffer := h'.buffer.trans h.buffer
  history := h'.history.trans h.history

end KeepsInput

variable (s : Session)

theorem keepsInput_reload : KeepsInput s s.reload := by
  unfold reload
  split <;> exact ⟨rfl, rfl, rfl, rfl, rfl⟩

theorem keepsInput_showAnswer (answer : Answer) : KeepsInput s (s.showAnswer answer) := by
  have htold : KeepsInput s
      ((if answer.command = some Command.clear.name then s.clearTranscript else s).tell
        (.outcome answer.report.severity) answer.report.message) := by
    split <;> exact ⟨rfl, rfl, rfl, rfl, rfl⟩
  cases htable : answer.report.table with
  | some t =>
    simp only [showAnswer, htable]
    exact htold.trans ⟨rfl, rfl, rfl, rfl, rfl⟩
  | none =>
    simp only [showAnswer, htable]
    exact htold.trans (keepsInput_reload _)

/-- The session once the reply of an agent is told. -/
def toldReply (line : Option String) : Session :=
  match line with
  | some line => s.tell .echo ("agent> " ++ line)
  | none => s

theorem submitReply_eq (reply : String) :
    s.submitReply reply = { s.toldReply (s.store.executeReply reply).1.line with
      store := (s.store.executeReply reply).2 }.showAnswer
        (s.store.executeReply reply).1.answer := by
  unfold submitReply toldReply
  generalize s.store.executeReply reply = answered
  obtain ⟨answer, store⟩ := answered
  rfl

theorem keepsInput_submitReply (reply : String) : KeepsInput s (s.submitReply reply) := by
  have htold : ∀ line store, KeepsInput s { s.toldReply line with store } := by
    intro line store
    unfold toldReply
    split <;> exact ⟨rfl, rfl, rfl, rfl, rfl⟩
  rw [submitReply_eq]
  exact (htold _ _).trans (keepsInput_showAnswer _ _)

/-- A blank line is not run. -/
theorem submit_of_blank (h : Text.trim s.input.text = "") : s.submit = s := by
  unfold submit
  simp only [h, if_true]

/-- The session once a line is told that goes from the input line to the history. -/
def toldLine (line : String) : Session :=
  { s with history := s.history.push line, input := .empty }.tell .echo ("> " ++ line)

theorem submit_eq {line : String} (hline : Text.trim s.input.text = line) (h : line ≠ "") :
    s.submit = { s.toldLine line with store := (s.store.execute line).2 }.showAnswer
      (s.store.execute line).1 := by
  unfold submit
  simp only [hline, h, if_false]
  rfl

theorem keepsInput_submit {line : String} (hline : Text.trim s.input.text = line) (h : line ≠ "") :
    KeepsInput { s with history := s.history.push line, input := .empty } s.submit := by
  have htold : ∀ store, KeepsInput { s with history := s.history.push line, input := .empty }
      { s.toldLine line with store } := by
    intro store
    exact ⟨rfl, rfl, rfl, rfl, rfl⟩
  rw [submit_eq s hline h]
  exact (htold _).trans (keepsInput_showAnswer _ _)

/-- A terminal on a store, with nothing on show yet. -/
def blank (store : Store) (clock : String) : Session where
  store := store
  clock := clock
  input := .empty
  mode := .normal
  focus := .input
  quit := false
  buffer := ""
  transcript := []
  result := none
  title := ""
  scroll := 0
  sideScroll := 0
  history := .empty
  widths := []

theorem new_eq (store : Store) (clock : String) : new store clock = (blank store clock).reload :=
  rfl

theorem keepsInput_new (store : Store) (clock : String) :
    KeepsInput (blank store clock) (new store clock) := by
  rw [new_eq]
  exact keepsInput_reload _

end Session
end Terminal
end TableShell
