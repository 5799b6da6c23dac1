import Mathlib.Algebra.Group.Nat.Even
import TableShell.Proofs.Delimited.FixedPoint

/-!
# Records, one character at a time

The reader looks ahead at two places: behind a quote inside quotes, and behind a carriage return.
`Progress.step` takes one character without looking ahead, and remembers what the character may
still mean. Its run over a text gives what the reader gives (`finish_run`), and a run over two texts
is one run behind the other. Quotes are open exactly behind an odd number of them
(`inQuotes_run_iff`).
-/

namespace TableShell
namespace Delimited

open Text

/-- What the last character may still turn out to be. -/
inductive Pending
  | nothing
  /-- The first of two quotes that stand for one. -/
  | quote
  /-- The first half of a line break. -/
  | carriage
deriving DecidableEq

/-- What has been read of a text. -/
structure Progress where
  /-- The finished records. -/
  records : List Record
  reading : Reading
  pending : Pending

/-- The quote that closed was the first of two, which stand for one. -/
def Reading.reopen (r : Reading) : Reading :=
  { r.take '"' with inQuotes := true }

namespace Progress

variable {delimiter : Char} {p : Progress} {c : Char} {cs : List Char}

/-- The record at hand ends at a line break. -/
def endRecord (p : Progress) (pending : Pending) : Progress :=
  ⟨p.records ++ p.reading.record?.toList, .fresh (p.reading.line + 1), pending⟩

/-- One character. -/
def step (delimiter : Char) (p : Progress) (c : Char) : Progress :=
  if p.reading.inQuotes then
    if c = '"' then
      ⟨p.records, p.reading.closeQuote, .quote⟩
    else
      ⟨p.records, p.reading.takeQuoted c, .nothing⟩
  else if c = '"' then
    if p.pending = .quote then
      ⟨p.records, p.reading.reopen, .nothing⟩
    else
      ⟨p.records, p.reading.openQuote, .nothing⟩
  else if p.pending = .carriage ∧ c = '\n' then
    { p with pending := .nothing }
  else if c = delimiter then
    ⟨p.records, p.reading.endField, .nothing⟩
  else if c = '\n' then
    p.endRecord .nothing
  else if c = '\r' then
    p.endRecord .carriage
  else if p.reading.quoted then
    { p with pending := .nothing }
  else
    ⟨p.records, p.reading.take c, .nothing⟩

/-- All characters of a text. -/
def run (delimiter : Char) (p : Progress) (cs : List Char) : Progress :=
  cs.foldl (step delimiter) p

/-- The records, if the text ends here. -/
def finish (p : Progress) : Except Error (List Record) :=
  if p.reading.inQuotes then
    .error (.unclosedQuote p.reading.start)
  else
    .ok (p.records ++ p.reading.lastRecord?.toList)

theorem finish_eq_ok_iff {rs : List Record} : p.finish = .ok rs ↔
    p.reading.inQuotes = false ∧ p.records ++ p.reading.lastRecord?.toList = rs := by
  rw [finish]
  cases p.reading.inQuotes with
  | true => exact iff_of_false nofun nofun
  | false => rw [if_neg Bool.false_ne_true, Except.ok.injEq, and_iff_right rfl]

/-- Nothing has been read yet. -/
def start : Progress :=
  ⟨[], .fresh 1, .nothing⟩

theorem run_nil : run delimiter p [] = p := rfl

theorem run_cons : run delimiter p (c :: cs) = run delimiter (step delimiter p c) cs := rfl

theorem run_append (first second : List Char) :
    run delimiter p (first ++ second) = run delimiter (run delimiter p first) second :=
  List.foldl_append

theorem run_concat : run delimiter p (cs ++ [c]) = step delimiter (run delimiter p cs) c := by
  rw [run_append, run_cons, run_nil]

/-! ## The run is what the reader does -/

section Steps

variable {records : List Record} {r : Reading}

/-- Where the next character is not the one that was waited for, nothing was pending. -/
theorem finish_run_of_pending {pending : Pending} (hquote : pending = .quote → cs.head? ≠ some '"')
    (hcarriage : pending = .carriage → cs.head? ≠ some '\n') :
    (run delimiter ⟨records, r, pending⟩ cs).finish
      = (run delimiter ⟨records, r, .nothing⟩ cs).finish := by
  cases cs with
  | nil => rfl
  | cons c cs =>
    have hc : pending = .quote → c ≠ '"' := fun h heq => hquote h (congrArg some heq)
    have hc' : pending = .carriage → c ≠ '\n' := fun h heq => hcarriage h (congrArg some heq)
    have hstep : step delimiter ⟨records, r, pending⟩ c
        = step delimiter ⟨records, r, .nothing⟩ c := by
      cases pending with
      | nothing => rfl
      | quote => simp [step, hc rfl, endRecord]
      | carriage => simp [step, hc' rfl, endRecord]
    rw [run_cons, run_cons, hstep]

theorem map_append_append {x : Except Error (List Record)} {first second : List Record} :
    (x.map (second ++ ·)).map (first ++ ·) = x.map ((first ++ second) ++ ·) := by
  cases x with
  | error e => rfl
  | ok later => exact congrArg Except.ok (List.append_assoc first second later).symm

/-- The reader, behind records that are finished, gives what the run gives. -/
theorem finish_run_eq_map (r : Reading) (cs : List Char) (records : List Record) :
    (run delimiter ⟨records, r, .nothing⟩ cs).finish
      = (scan delimiter r cs).map (records ++ ·) := by
  -- where the reader takes two characters at once, the run takes two steps
  fun_induction scan delimiter r cs generalizing records with
  | case1 r hquotes =>
    rw [run_nil, finish, if_pos hquotes]
    rfl
  | case2 r hquotes =>
    rw [run_nil, finish, if_neg hquotes]
    rfl
  | case3 r hquotes rest ih =>
    have hreopen : r.closeQuote.reopen = r.take '"' := by
      rw [Reading.reopen, Reading.closeQuote, Reading.take, Reading.take, hquotes]
    have hclosed : r.closeQuote.inQuotes = false := rfl
    rw [← ih, run_cons, run_cons]
    simp only [step, hquotes, hclosed, Bool.false_eq_true, if_true, if_false, hreopen]
  | case4 r hquotes rest hnot ih =>
    rw [← ih, run_cons]
    simp only [step, hquotes, if_true]
    -- no second quote follows, so waiting for it makes no difference
    apply finish_run_of_pending
    · intro _ hhead
      obtain ⟨more, rfl⟩ := List.head?_eq_some_iff.mp hhead
      exact hnot more rfl
    · rintro ⟨⟩
  | case5 r c rest hquotes hc ih =>
    rw [← ih, run_cons]
    simp only [step, hquotes, hc, if_true, if_false]
  | case6 r rest hquotes ih =>
    rw [← ih, run_cons]
    simp [step, hquotes]
  | case7 r rest hquotes hdelimiter ih =>
    rw [← ih, run_cons]
    simp [step, hquotes, hdelimiter]
  | case8 r rest hquotes hquote hdelimiter ih =>
    rw [map_append_append, ← ih, run_cons]
    simp [step, hquotes, hdelimiter, endRecord]
  | case9 r hquotes rest hquote hdelimiter hnewline ih =>
    rw [map_append_append, ← ih, run_cons, run_cons]
    simp [step, hquotes, hdelimiter, endRecord, Reading.fresh]
  | case10 r hquotes rest hnot hquote hdelimiter hnewline ih =>
    rw [map_append_append, ← ih, run_cons]
    simp only [step, hquotes, hdelimiter, hquote, hnewline, endRecord, if_false, if_true,
      and_false]
    -- no line feed follows the carriage return
    apply finish_run_of_pending
    · rintro ⟨⟩
    · intro _ hhead
      obtain ⟨more, rfl⟩ := List.head?_eq_some_iff.mp hhead
      exact hnot more rfl
  | case11 r c rest hquotes hc hdelimiter hnewline hreturn hquoted ih =>
    rw [← ih, run_cons]
    simp [step, hquotes, hc, hdelimiter, hnewline, hreturn, hquoted]
  | case12 r c rest hquotes hc hdelimiter hnewline hreturn hquoted ih =>
    rw [← ih, run_cons]
    simp [step, hquotes, hc, hdelimiter, hnewline, hreturn, hquoted]

end Steps

theorem scan_eq_finish (delimiter : Char) (r : Reading) (cs : List Char) :
    scan delimiter r cs = (run delimiter ⟨[], r, .nothing⟩ cs).finish := by
  rw [finish_run_eq_map]
  cases scan delimiter r cs <;> rfl

/-- The records of a text are those of the run over it. -/
theorem records_eq (delimiter : Char) (s : String) :
    Delimited.records delimiter s = (run delimiter start s.toList).finish :=
  scan_eq_finish delimiter (.fresh 1) s.toList

/-! ## What a step can do -/

/-- All that a character can do, and when it does. -/
inductive Step (delimiter : Char) (p : Progress) (c : Char) : Progress → Prop
  | closeQuote (inside : p.reading.inQuotes = true) (hc : c = '"') :
    Step delimiter p c ⟨p.records, p.reading.closeQuote, .quote⟩
  | takeQuoted (inside : p.reading.inQuotes = true) (hc : c ≠ '"') :
    Step delimiter p c ⟨p.records, p.reading.takeQuoted c, .nothing⟩
  | reopen (outside : p.reading.inQuotes = false) (hc : c = '"') (hpending : p.pending = .quote) :
    Step delimiter p c ⟨p.records, p.reading.reopen, .nothing⟩
  | openQuote (outside : p.reading.inQuotes = false) (hc : c = '"')
      (hpending : p.pending ≠ .quote) :
    Step delimiter p c ⟨p.records, p.reading.openQuote, .nothing⟩
  | secondHalf (outside : p.reading.inQuotes = false) (hpending : p.pending = .carriage)
    (hc : c = '\n') : Step delimiter p c { p with pending := .nothing }
  | endField (outside : p.reading.inQuotes = false) (hc : c = delimiter) (hquote : c ≠ '"')
    (hfirst : ¬ (p.pending = .carriage ∧ c = '\n')) :
    Step delimiter p c ⟨p.records, p.reading.endField, .nothing⟩
  | endRecord (outside : p.reading.inQuotes = false) (hc : c = '\n' ∨ c = '\r')
    (hdelimiter : c ≠ delimiter) (hfirst : ¬ (p.pending = .carriage ∧ c = '\n')) :
    Step delimiter p c (p.endRecord (if c = '\n' then .nothing else .carriage))
  | ignore (outside : p.reading.inQuotes = false) (hquoted : p.reading.quoted = true)
    (hc : c ≠ '"' ∧ c ≠ delimiter ∧ c ≠ '\n' ∧ c ≠ '\r') :
    Step delimiter p c { p with pending := .nothing }
  | take (outside : p.reading.inQuotes = false) (hquoted : p.reading.quoted = false)
    (hc : c ≠ '"' ∧ c ≠ delimiter ∧ c ≠ '\n' ∧ c ≠ '\r') :
    Step delimiter p c ⟨p.records, p.reading.take c, .nothing⟩

theorem step_spec (delimiter : Char) (p : Progress) (c : Char) :
    Step delimiter p c (step delimiter p c) := by
  rw [step]
  split
  · rename_i inside
    split
    · rename_i hc
      exact .closeQuote inside hc
    · rename_i hc
      exact .takeQuoted inside hc
  · rename_i outside
    rw [Bool.not_eq_true] at outside
    split
    · rename_i hc
      split
      · rename_i hpending
        exact .reopen outside hc hpending
      · rename_i hpending
        exact .openQuote outside hc hpending
    · rename_i hquote
      split
      · rename_i hsecond
        exact .secondHalf outside hsecond.1 hsecond.2
      · rename_i hfirst
        split
        · rename_i hdelimiter
          exact .endField outside hdelimiter hquote hfirst
        · rename_i hdelimiter
          split
          · rename_i hnewline
            have hend := Step.endRecord outside (Or.inl hnewline) hdelimiter hfirst
            rwa [if_pos hnewline] at hend
          · rename_i hnewline
            split
            · rename_i hreturn
              have hend := Step.endRecord outside (Or.inr hreturn) hdelimiter hfirst
              rwa [if_neg hnewline] at hend
            · rename_i hreturn
              split
              · rename_i hquoted
                exact .ignore outside hquoted ⟨hquote, hdelimiter, hnewline, hreturn⟩
              · rename_i hquoted
                rw [Bool.not_eq_true] at hquoted
                exact .take outside hquoted ⟨hquote, hdelimiter, hnewline, hreturn⟩

/-! ## What a run keeps -/

section Runs

variable {q : Progress}

/-- A quote opens or closes quotes, and nothing else does. -/
theorem Step.inQuotes (h : Step delimiter p c q) :
    q.reading.inQuotes = (p.reading.inQuotes != decide (c = '"')) := by
  cases h with
  | closeQuote inside hc => simp [inside, hc, Reading.closeQuote]
  | takeQuoted inside hc => simp [inside, hc, Reading.takeQuoted, Reading.take]
  | reopen outside hc hpending => simp [outside, hc, Reading.reopen]
  | openQuote outside hc hpending => simp [outside, hc, Reading.openQuote]
  | secondHalf outside hpending hc => simp [outside, hc]
  | endField outside hc hquote hfirst => simp [outside, hquote, Reading.endField]
  | endRecord outside hc hdelimiter hfirst =>
    rcases hc with rfl | rfl <;> simp [outside, Progress.endRecord, Reading.fresh]
  | ignore outside hquoted hc => simp [outside, hc.1]
  | take outside hquoted hc => simp [outside, hc.1, Reading.take]

/-- Quotes are open exactly behind an odd number of them. -/
theorem inQuotes_run_iff (houtside : p.reading.inQuotes = false) (cs : List Char) :
    (run delimiter p cs).reading.inQuotes = false ↔ Even (cs.count '"') := by
  induction cs using List.reverseRecOn with
  | nil => simp [run_nil, houtside]
  | append_singleton cs c ih =>
    rw [run_concat, (step_spec delimiter _ c).inQuotes, List.count_append]
    by_cases hc : c = '"'
    · subst hc
      rw [List.count_singleton_self, Nat.even_add_one, ← ih]
      simp
    · rw [List.count_singleton, if_neg (by simpa using hc), Nat.add_zero, ← ih]
      simp [hc]

/-- What every step keeps, a run keeps. -/
theorem run_induction {P : Progress → Prop}
    (hstep : ∀ {p q : Progress} {c : Char}, P p → Step delimiter p c q → P q) (hp : P p)
    (cs : List Char) : P (run delimiter p cs) := by
  induction cs using List.reverseRecOn with
  | nil => exact hp
  | append_singleton cs c ih =>
    rw [run_concat]
    exact hstep ih (step_spec delimiter _ c)

/-- What holds at any time: inside quotes and right behind them the field is a quoted one, and
behind a carriage return nothing has been read of the record. -/
structure Sound (p : Progress) : Prop where
  quoted : p.reading.inQuotes = true → p.reading.quoted = true
  pending_quote : p.pending = .quote → p.reading.quoted = true
  pending_carriage : p.pending = .carriage → ∃ n, p.reading = .fresh n

theorem sound_start : Sound start :=
  ⟨nofun, nofun, nofun⟩

theorem Sound.step (hp : Sound p) (h : Step delimiter p c q) : Sound q := by
  cases h with
  | closeQuote inside hc => exact ⟨nofun, fun _ => hp.quoted inside, nofun⟩
  | takeQuoted inside hc => exact ⟨fun _ => hp.quoted inside, nofun, nofun⟩
  | reopen outside hc hpending => exact ⟨fun _ => hp.pending_quote hpending, nofun, nofun⟩
  | openQuote outside hc hpending => exact ⟨fun _ => rfl, nofun, nofun⟩
  | secondHalf outside hpending hc => exact ⟨hp.quoted, nofun, nofun⟩
  | endField outside hc hquote hfirst =>
    exact ⟨fun inside => absurd (outside.symm.trans inside) Bool.false_ne_true, nofun, nofun⟩
  | endRecord outside hc hdelimiter hfirst =>
    refine ⟨nofun, fun hpending => ?_, fun _ => ⟨_, rfl⟩⟩
    rcases hc with rfl | rfl <;> cases hpending
  | ignore outside hquoted hc => exact ⟨hp.quoted, nofun, nofun⟩
  | take outside hquoted hc => exact ⟨hp.quoted, nofun, nofun⟩

theorem Sound.run (hp : Sound p) (cs : List Char) : Sound (run delimiter p cs) :=
  run_induction Sound.step hp cs

end Runs

end Progress
end Delimited
end TableShell
