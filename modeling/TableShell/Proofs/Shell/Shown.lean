import TableShell.Proofs.Shell.AllOrNothing
import TableShell.Proofs.Table.WellFormed

/-!
# Tables that are loaded and shown

Whatever stands in a file, the table that is loaded from it is well formed; what is held in memory
is what was put there. Lines, requests and replies of agents leave a store `Sound` that was, and the
tables that they show are well formed (`Store.Answers`).
-/

namespace TableShell
namespace Store

/-- A table that the store gives is well formed. -/
def Sound (store : Store) : Prop :=
  ∀ t, store.load = .ok t → t.WellFormed

theorem sound_file (location : String) (delimiter : Char) (tree : FileTree) :
    (file location delimiter tree).Sound := by
  intro t hload
  simp only [load] at hload
  split at hload
  · split at hload
    · cases hload
    · split at hload
      · rename_i table hread
        cases hload
        exact Table.wellFormed_of_read hread
      · cases hload
        exact Table.wellFormed_empty
      · cases hload
  · cases hload
    exact Table.wellFormed_empty

theorem sound_save {t : Table} (h : t.WellFormed) (store : Store) : (store.save t).1.Sound := by
  cases store with
  | memory table =>
    intro loaded hload
    cases hload
    exact h
  | file location delimiter tree => exact sound_file _ _ _

theorem wellFormed_of_tableFor {store : Store} (h : store.Sound) {command : Command} {t : Table}
    (htable : store.tableFor command = .ok t) : t.WellFormed := by
  unfold tableFor at htable
  split at htable
  · exact h t (Traversal.mapError_eq_ok_iff.mp htable)
  · cases htable
    exact Table.wellFormed_empty

/-- What a store answers, and the store after it: sound if it was, and then what it shows is well
formed. -/
structure Answers (store : Store) (report : Report) (after : Store) : Prop where
  sound : store.Sound → after.Sound
  shown : after.Sound → ∀ t, report.table = some t → t.WellFormed

/-- A report without a table shows nothing. -/
theorem answers_of_none {store after : Store} {report : Report} (hnone : report.table = none)
    (hsound : store.Sound → after.Sound) : store.Answers report after where
  sound := hsound
  shown := by simp [hnone]

/-- The store after a change is sound, whether or not the change could be saved. -/
theorem sound_of_changed {store : Store} {command : Command} {applied : Applied} {t' : Table}
    (houtcome : store.outcome command = .ok applied) (hchanged : applied.changed = some t')
    (h : store.Sound) : (store.save t').1.Sound := by
  obtain ⟨t, htable, happly⟩ := apply_of_outcome houtcome
  obtain ⟨rows, -, hchanges⟩ := (Table.wrote_of_changed happly hchanged).changes
  exact sound_save ((wellFormed_of_tableFor h htable).of_changes hchanges) store

theorem answers_run (store : Store) (command : Command) :
    store.Answers (reportOf (store.run command).1) (store.run command).2 := by
  have hran := ran_run store command
  generalize store.run command = ran at hran ⊢
  obtain ⟨result, after⟩ := ran
  cases hran with
  | refused houtcome => exact answers_of_none rfl id
  | looked houtcome hchanged =>
    obtain ⟨t, htable, happly⟩ := apply_of_outcome houtcome
    constructor
    · exact id
    · intro hsound u hu
      exact ((wellFormed_of_tableFor hsound htable).of_shown happly hu).1
  | saved houtcome hchanged hsave =>
    -- a command that changes the table shows none
    obtain ⟨t, -, happly⟩ := apply_of_outcome houtcome
    have hsound := sound_of_changed houtcome hchanged
    rw [hsave] at hsound
    exact answers_of_none (Table.wrote_of_changed happly hchanged).shown hsound
  | unsaved houtcome hchanged hsave =>
    have hsound := sound_of_changed houtcome hchanged
    rw [hsave] at hsound
    exact answers_of_none rfl hsound

theorem answers_execute (store : Store) (line : String) :
    store.Answers (store.execute line).1.report (store.execute line).2 := by
  unfold execute
  cases Command.read line with
  | error cause => exact answers_of_none rfl id
  | ok command =>
    have hrun := answers_run store command
    cases hresult : store.run command with
    | mk result after =>
      rw [hresult] at hrun
      simp only [hresult]
      cases result <;> exact hrun

theorem answers_executeReply (store : Store) (reply : String) :
    store.Answers (store.executeReply reply).1.answer.report (store.executeReply reply).2 := by
  have hrejected : ∀ e, store.Answers (rejection e) store := by
    intro e
    cases e <;> exact answers_of_none rfl id
  unfold executeReply
  cases Reply.read reply with
  | error e => exact hrejected e
  | ok request =>
    show store.Answers (store.executeRequest request).1.answer.report
      (store.executeRequest request).2
    unfold executeRequest
    cases request.line with
    | error e => exact hrejected e
    | ok line => exact answers_execute store line

end Store
end TableShell
