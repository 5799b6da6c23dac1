import TableShell.Proofs.Command.Conditions
import TableShell.Proofs.Effect.Agreement
import TableShell.Proofs.Effect.Changes
import TableShell.Proofs.Store.Saving
import TableShell.Shell

/-!
# A command is saved whole, or not at all

A store goes on holding what it held unless the command that was given succeeds; and then it holds
the one table that the command made of the loaded one, saved once (`atomic_execute` and its siblings
for requests and replies). In memory, a command that is refused or touches no row has done nothing
to the table at all (`InPlace.allOrNothing_apply`). `saved_whole_or_not_at_all` puts both together.
-/

namespace TableShell
namespace Store

/-! ## What a run comes to -/

/-- All that a run of the command can come to. -/
inductive Ran (store : Store) (command : Command) : Except Failure Answer → Store → Prop
  | refused {failure : Failure} (houtcome : store.outcome command = .error failure) :
    Ran store command (.error failure) store
  | looked {applied : Applied} (houtcome : store.outcome command = .ok applied)
    (hchanged : applied.changed = none) :
    Ran store command (.ok ⟨applied.report, some command.name⟩) store
  | saved {applied : Applied} {t : Table} {after : Store}
    (houtcome : store.outcome command = .ok applied) (hchanged : applied.changed = some t)
    (hsave : store.save t = (after, none)) :
    Ran store command (.ok ⟨applied.report, some command.name⟩) after
  | unsaved {applied : Applied} {t : Table} {after : Store} {e : StoreError}
    (houtcome : store.outcome command = .ok applied) (hchanged : applied.changed = some t)
    (hsave : store.save t = (after, some e)) :
    Ran store command (.error (.store e)) after

theorem ran_run (store : Store) (command : Command) :
    store.Ran command (store.run command).1 (store.run command).2 := by
  unfold run
  cases houtcome : store.outcome command with
  | error failure => exact .refused houtcome
  | ok applied =>
    cases hchanged : applied.changed with
    | none =>
      simp only [hchanged]
      exact .looked houtcome hchanged
    | some t =>
      simp only [hchanged]
      cases hsave : store.save t with
      | mk after error =>
        cases error with
        | none => exact .saved houtcome hchanged hsave
        | some e => exact .unsaved houtcome hchanged hsave

theorem ran_of_run {store after : Store} {command : Command} {result : Except Failure Answer}
    (h : store.run command = (result, after)) : store.Ran command result after := by
  have hran := store.ran_run command
  rwa [h] at hran

theorem apply_of_outcome {store : Store} {command : Command} {applied : Applied}
    (h : store.outcome command = .ok applied) :
    ∃ t, store.tableFor command = .ok t ∧ t.apply command = .ok applied := by
  obtain ⟨t, htable, happly⟩ := Traversal.bind_eq_ok_iff.mp h
  exact ⟨t, htable, Traversal.mapError_eq_ok_iff.mp happly⟩

/-! ## Commands -/

/-- The command was applied to the loaded table, and the table that it made was saved, once. -/
structure Saves (store : Store) (command : Command) (report : Report) (after : Store)
    (t t' : Table) (rows : ℕ) : Prop where
  load : store.load = .ok t
  changes : t.Changes command rows t'
  applied : ∃ applied, t.apply command = .ok applied ∧ applied.changed = some t' ∧
    applied.report = report
  affectedRows : report.affectedRows = some rows
  save : store.save t' = (after, none)
  contents : after.contents = store.holding t'

/-- The store holds what it held, unless the report is one of success and one of the commands that
were given was saved. -/
structure Atomic (store : Store) (given : Command → Prop) (report : Report) (after : Store) :
    Prop where
  unchanged : report.severity ≠ .success → after.contents = store.contents
  saved : after.contents ≠ store.contents → report.severity = .success ∧
    ∃ command t t' rows, given command ∧ store.Saves command report after t t' rows

/-- A store that is left alone is left alone. -/
theorem atomic_refl (store : Store) (given : Command → Prop) (report : Report) :
    store.Atomic given report store where
  unchanged _ := rfl
  saved h := absurd rfl h

theorem Atomic.mono {store after : Store} {given given' : Command → Prop} {report : Report}
    (h : store.Atomic given report after) (himp : ∀ command, given command → given' command) :
    store.Atomic given' report after where
  unchanged := h.unchanged
  saved hne := by
    obtain ⟨hseverity, command, t, t', rows, hgiven, hsaves⟩ := h.saved hne
    exact ⟨hseverity, command, t, t', rows, himp command hgiven, hsaves⟩

/-- The command that changed a table looks at one, so the table was loaded. -/
theorem load_of_changes {store : Store} {command : Command} {t t' : Table} {rows : ℕ}
    (h : store.tableFor command = .ok t) (hchanges : t.Changes command rows t') :
    store.load = .ok t := by
  have hneeds : needsTable command = true := by
    cases hchanges <;> rfl
  unfold tableFor at h
  rw [hneeds, if_pos rfl] at h
  exact Traversal.mapError_eq_ok_iff.mp h

/-- What is reported where a line is one of a command. -/
def reportOf (result : Except Failure Answer) : Report :=
  match result with
  | .ok answer => answer.report
  | .error failure => failure.report

/-- A command is saved whole, or not at all. -/
theorem atomic_run (store : Store) (command : Command) :
    store.Atomic (· = command) (reportOf (store.run command).1) (store.run command).2 := by
  have hran := ran_run store command
  generalize store.run command = ran at hran ⊢
  obtain ⟨result, after⟩ := ran
  cases hran with
  | refused houtcome => exact atomic_refl _ _ _
  | looked houtcome hchanged => exact atomic_refl _ _ _
  | unsaved houtcome hchanged hsave =>
    constructor
    · intro _
      exact contents_save_error hsave
    · intro hne
      exact absurd (contents_save_error hsave) hne
  | @saved applied t' after houtcome hchanged hsave =>
    -- the one end of a run at which the contents can differ
    obtain ⟨t, htable, happly⟩ := apply_of_outcome houtcome
    have hwrote := Table.wrote_of_changed happly hchanged
    obtain ⟨rows, hrows, hchanges⟩ := hwrote.changes
    constructor
    · intro hseverity
      exact absurd hwrote.severity hseverity
    · intro _
      refine ⟨hwrote.severity, command, t, t', rows, rfl, ?_⟩
      constructor
      · exact load_of_changes htable hchanges
      · exact hchanges
      · exact ⟨applied, happly, hchanged, rfl⟩
      · exact hrows
      · exact hsave
      · exact contents_save hsave

/-! ## Lines, requests and replies -/

/-- The commands that a line gives. -/
def GivenByLine (line : String) (command : Command) : Prop :=
  Command.read line = .ok command

/-- The commands that a request gives through its line. -/
def GivenByRequest (request : Request) (command : Command) : Prop :=
  ∃ line, request.line = .ok line ∧ GivenByLine line command

/-- The commands that a reply gives through its request. -/
def GivenByReply (reply : String) (command : Command) : Prop :=
  ∃ request, Reply.read reply = .ok request ∧ GivenByRequest request command

theorem atomic_execute (store : Store) (line : String) :
    store.Atomic (GivenByLine line) (store.execute line).1.report (store.execute line).2 := by
  unfold execute
  cases hread : Command.read line with
  | error cause => exact atomic_refl store _ _
  | ok command =>
    have hgiven : ∀ given, given = command → GivenByLine line given := by
      rintro given rfl
      exact hread
    have hmono := (atomic_run store command).mono hgiven
    cases hresult : store.run command with
    | mk result after =>
      rw [hresult] at hmono
      simp only [hresult]
      cases result <;> exact hmono

theorem atomic_executeRequest (store : Store) (request : Request) :
    store.Atomic (GivenByRequest request) (store.executeRequest request).1.answer.report
      (store.executeRequest request).2 := by
  unfold executeRequest
  cases hline : request.line with
  | error e => exact atomic_refl store _ _
  | ok line => exact (atomic_execute store line).mono fun _ hgiven => ⟨line, hline, hgiven⟩

theorem atomic_executeReply (store : Store) (reply : String) :
    store.Atomic (GivenByReply reply) (store.executeReply reply).1.answer.report
      (store.executeReply reply).2 := by
  unfold executeReply
  cases hread : Reply.read reply with
  | error e => exact atomic_refl store _ _
  | ok request =>
    exact (atomic_executeRequest store request).mono fun _ hgiven => ⟨request, hread, hgiven⟩

/-- In place, a command that is refused, or touches no row, leaves the table and its index as they
were; in place or not, the commands do the same; and whatever is given to the shell, a store changes
its contents only by saving the whole table of one command that succeeded. -/
theorem saved_whole_or_not_at_all :
    (∀ command, InPlace.AllOrNothing (InPlace.apply command)) ∧
    (∀ {t : Table}, t.Covered → ∀ command,
      (InPlace.apply command).run (.ofTable t) = InPlace.expected t (t.apply command)) ∧
    ∀ store : Store,
      (∀ line, store.Atomic (GivenByLine line) (store.execute line).1.report
        (store.execute line).2) ∧
      (∀ request, store.Atomic (GivenByRequest request)
        (store.executeRequest request).1.answer.report (store.executeRequest request).2) ∧
      (∀ reply, store.Atomic (GivenByReply reply) (store.executeReply reply).1.answer.report
        (store.executeReply reply).2) := by
  refine ⟨InPlace.allOrNothing_apply, fun hcovered => InPlace.run_apply hcovered, ?_⟩
  intro store
  exact ⟨atomic_execute store, atomic_executeRequest store, atomic_executeReply store⟩

/-- Two ages of three are deleted, in place and in the store. -/
theorem saved_whole_two_of_three :
    let command : Command := .delete (.ofList [("age", ">10")]) false
    let after := ((Store.memory Table.ages).execute "delete age=>10").2
    (InPlace.apply command).run (.ofTable Table.ages)
        = .ok (some 2) (.ofTable { Table.ages with rows := [[.integer 5]] }) ∧
      ∃ given report t t' rows, given = command ∧
        (Store.memory Table.ages).Saves given report after t t' rows := by
  intro command after
  have hcovered : Table.ages.Covered := by
    unfold Table.Covered
    decide
  have happly : Table.ages.apply command = .ok (.write
      "Deleted 2 row(s). Conditions: \x7bage: >10\x7d" 2
      { Table.ages with rows := [[.integer 5]] }) :=
    Traversal.toOption_eq_some_iff.mp (by decide +kernel)
  have hread : Command.read "delete age=>10" = .ok command :=
    Traversal.toOption_eq_some_iff.mp (by decide +kernel)
  constructor
  · rw [saved_whole_or_not_at_all.2.1 hcovered, happly]
    rfl
  · have hne : after.contents ≠ (Store.memory Table.ages).contents := by
      decide +kernel
    obtain ⟨-, given, t, t', rows, hgiven, hsaves⟩ :=
      ((saved_whole_or_not_at_all.2.2 (.memory Table.ages)).1 "delete age=>10").saved hne
    have hsame : Command.read "delete age=>10" = .ok given := hgiven
    rw [hread] at hsame
    exact ⟨given, _, t, t', rows, (Except.ok.inj hsame).symm, hsaves⟩

end Store
end TableShell
