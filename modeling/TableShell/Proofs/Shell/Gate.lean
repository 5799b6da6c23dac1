import TableShell.Proofs.Command.Conditions
import TableShell.Proofs.Effect.Preparing
import TableShell.Proofs.Request.Meaning
import TableShell.Proofs.Shell.AllOrNothing

/-!
# The gate before large deletions

A command that takes more than ten rows out of the stored table was confirmed: by an argument of
the line that spells the confirmation, or by the field of the request that is the truth value true.
No name and no value of a condition can stand for it. A deletion that is not confirmed is refused
above ten rows, and below takes out just the rows that it matches (`removal_is_confirmed`).
-/

namespace TableShell

open Text

namespace Table

/-! ## How many rows a change leaves -/

/-- Each selected row is one row less. -/
theorem length_unselected {rows : List Row} {mask : List Bool} (h : mask.length = rows.length) :
    (unselected rows mask).length + mask.count true = rows.length := by
  induction rows generalizing mask with
  | nil =>
    have hnil : mask = [] := List.length_eq_zero_iff.mp h
    rw [hnil]
    rfl
  | cons row rows ih =>
    cases mask with
    | nil => cases h
    | cons selected mask =>
      have hrest := ih (Nat.succ.inj h)
      cases selected with
      | true =>
        rw [unselected, if_pos rfl, List.count_cons_self, List.length_cons]
        omega
      | false =>
        rw [unselected, if_neg Bool.false_ne_true, List.count_cons_of_ne (by decide),
          List.length_cons, List.length_cons]
        omega

theorem length_remove {t : Table} {conditions : Conditions} {mask : List Bool}
    (h : t.selectAll conditions = .ok mask) :
    (t.remove mask).rows.length + mask.count true = t.rows.length :=
  length_unselected (selectAll_spec h).1

/-- Only deletions make a table smaller, and a large one was confirmed. -/
theorem confirmed_of_changes {t t' : Table} {command : Command} {rows : ℕ}
    (h : t.Changes command rows t') (hfewer : t'.rows.length + unconfirmedLimit < t.rows.length) :
    (∃ conditions, command = .delete conditions true) ∨ command = .deleteAll true := by
  cases h with
  | add values =>
    rw [length_rows_append] at hfewer
    omega
  | addBatch columns =>
    rw [length_rows_append] at hfewer
    omega
  | @update _ assignments mask _ _ _ =>
    rw [(rewrites_assign mask t assignments).length_rows] at hfewer
    omega
  | @delete conditions confirmed mask _ hmask _ hgate =>
    have hlength := length_remove hmask
    rcases hgate with hsmall | rfl
    · omega
    · exact Or.inl ⟨conditions, rfl⟩
  | deleteAll => exact Or.inr rfl

end Table

namespace Store

/-! ## What is saved -/

/-- The table that the command has saved, if it has one saved. -/
def saved? (store : Store) (command : Command) : Option Table :=
  match store.outcome command with
  | .ok applied => applied.changed
  | .error _ => none

/-- The table that the line has saved. -/
def savedByLine? (store : Store) (line : String) : Option Table :=
  (Command.read line).toOption.bind store.saved?

/-- The table that the reply has saved. -/
def savedByReply? (store : Store) (reply : String) : Option Table :=
  (Reply.read reply).toOption.bind fun request =>
    request.line.toOption.bind store.savedByLine?

/-- The store with the table saved, if there is one. -/
def withSaved (store : Store) (saved : Option Table) : Store :=
  match saved with
  | some t => (store.save t).1
  | none => store

theorem saved?_of_outcome {store : Store} {command : Command} {applied : Applied}
    (h : store.outcome command = .ok applied) : store.saved? command = applied.changed := by
  unfold saved?
  rw [h]

theorem run_snd (store : Store) (command : Command) :
    (store.run command).2 = store.withSaved (store.saved? command) := by
  have hran := ran_run store command
  generalize store.run command = ran at hran ⊢
  obtain ⟨result, after⟩ := ran
  unfold saved?
  cases hran with
  | refused houtcome => rw [houtcome]; rfl
  | looked houtcome hchanged =>
    rw [houtcome]
    simp only [hchanged, withSaved]
  | saved houtcome hchanged hsave =>
    rw [houtcome]
    simp only [hchanged, withSaved, hsave]
  | unsaved houtcome hchanged hsave =>
    rw [houtcome]
    simp only [hchanged, withSaved, hsave]

theorem execute_snd (store : Store) (line : String) :
    (store.execute line).2 = store.withSaved (store.savedByLine? line) := by
  unfold execute savedByLine?
  cases Command.read line with
  | error cause => rfl
  | ok command =>
    have hrun := run_snd store command
    cases hresult : store.run command with
    | mk result after =>
      rw [hresult] at hrun
      simp only [hresult]
      cases result <;> exact hrun

theorem executeReply_snd (store : Store) (reply : String) :
    (store.executeReply reply).2 = store.withSaved (store.savedByReply? reply) := by
  unfold executeReply savedByReply?
  cases Reply.read reply with
  | error e => rfl
  | ok request =>
    show (store.executeRequest request).2 = _
    unfold executeRequest
    cases hline : request.line with
    | error e =>
      simp only [Except.toOption, Option.bind_some, hline]
      rfl
    | ok line =>
      simp only [Except.toOption, Option.bind_some, hline]
      exact execute_snd store line

/-- What is saved is what the command made of the loaded table. -/
theorem changes_of_saved {store : Store} {command : Command} {t' : Table}
    (h : store.saved? command = some t') :
    ∃ t rows, store.load = .ok t ∧ t.Changes command rows t' := by
  unfold saved? at h
  split at h
  · rename_i applied houtcome
    obtain ⟨t, htable, happly⟩ := apply_of_outcome houtcome
    obtain ⟨rows, -, hchanges⟩ := (Table.wrote_of_changed happly h).changes
    exact ⟨t, rows, load_of_changes htable hchanges, hchanges⟩
  · cases h

theorem read_of_savedByLine {store : Store} {line : String} {t' : Table}
    (h : store.savedByLine? line = some t') :
    ∃ command, Command.read line = .ok command ∧ store.saved? command = some t' := by
  obtain ⟨command, hread, hsaved⟩ := Option.bind_eq_some_iff.mp h
  exact ⟨command, Traversal.toOption_eq_some_iff.mp hread, hsaved⟩

end Store

/-! ## Confirmed lines -/

namespace Command

/-- The words of a line confirm the deletion of many rows. -/
def Confirms (first : String) (arguments : List String) : Prop :=
  (lower first = "delete" ∧
    ∃ argument ∈ arguments, sameIgnoringAsciiCase argument "confirm=yes" = true) ∨
  (lower first = "delete_all" ∧
    ∃ argument, arguments.head? = some argument ∧
      sameIgnoringAsciiCase argument "confirm" = true)

theorem deleteAll_of_ofWords {first : String} {arguments : List String}
    (hfirst : lower first = "delete_all") :
    ofWords (first :: arguments) = .ok (.deleteAll
      ((arguments.head?.map fun argument => sameIgnoringAsciiCase argument "confirm").getD
        false)) := by
  rw [ofWords, hfirst]
  cases arguments <;> rfl

/-- A line that gives a confirmed deletion confirms it. -/
theorem confirms_of_ofWords {first : String} {arguments : List String} {command : Command}
    (h : ofWords (first :: arguments) = .ok command)
    (hcommand : (∃ conditions, command = .delete conditions true) ∨ command = .deleteAll true) :
    Confirms first arguments := by
  have hname := name_of_ofWords h
  rcases hcommand with ⟨conditions, rfl⟩ | rfl
  · obtain ⟨pairs, -, hdelete⟩ := readDelete_eq_ok (readDelete_of_ofWords h rfl)
    have hany : arguments.any isDeleteConfirmation = true := by
      cases hany : arguments.any isDeleteConfirmation with
      | true => rfl
      | false =>
        rw [hany] at hdelete
        cases hdelete
    obtain ⟨argument, hargument, hconfirms⟩ := List.any_eq_true.mp hany
    exact Or.inl ⟨hname.symm, argument, hargument, hconfirms⟩
  · rw [deleteAll_of_ofWords hname.symm] at h
    right
    refine ⟨hname.symm, ?_⟩
    cases hhead : arguments.head? with
    | none =>
      rw [hhead] at h
      cases h
    | some argument =>
      rw [hhead] at h
      exact ⟨argument, rfl, Command.deleteAll.inj (Except.ok.inj h)⟩

end Command

/-! ## Confirmed requests -/

namespace Request

theorem eq_true_of_isTrue {confirm : Option Json} (h : isTrue confirm = true) :
    confirm = some (.bool true) := by
  unfold isTrue at h
  split at h
  · rfl
  · cases h

/-- The line of a request gives a command of the name of its operation. -/
theorem name_of_line {request : Request} {line : String} {command : Command}
    (h : request.line = .ok line) (hread : Command.read line = .ok command) :
    command.name = request.fields.1 := by
  obtain ⟨words, hwords, rfl⟩ := Traversal.map_eq_ok_iff.mp h
  -- a line is read as one command, so it is enough to say which
  have hsame : ∀ {other : Command}, Command.read (" ".intercalate words) = .ok other →
      other.name = request.fields.1 → command.name = request.fields.1 := by
    intro other hother hname
    rw [hread] at hother
    cases hother
    exact hname
  cases request with
  | list =>
    cases hwords
    exact hsame (read_of_writes (fun _ => .ok .list) (by simp [Command.readers]) .nil rfl) rfl
  | columns =>
    cases hwords
    exact hsame (read_of_writes (fun _ => .ok .columns) (by simp [Command.readers]) .nil rfl) rfl
  | add data => exact hsame (read_add hwords) rfl
  | addBatch names rows => exact hsame (read_addBatch hwords).2 rfl
  | update conditions data => exact hsame (read_update hwords) rfl
  | delete conditions confirm => exact hsame (read_delete hwords) rfl
  | search keyword =>
    cases keyword with
    | none => cases hwords
    | some keyword =>
      cases hwords
      exact hsame (read_of_writes Command.readSearch (by simp [Command.readers])
        (.cons (Words.writes_quote (valueText keyword)) .nil) rfl) rfl
  | searchExact column value =>
    cases column with
    | none => cases hwords
    | some column =>
      cases value with
      | none => cases hwords
      | some value => exact hsame (read_searchExact hwords) rfl
  | error message => cases hwords

/-- Only a request to delete gives a confirmed deletion, and only its own field confirms it. -/
theorem delete_of_line {request : Request} {line : String} {command : Command}
    (h : request.line = .ok line) (hread : Command.read line = .ok command)
    (hcommand : (∃ conditions, command = .delete conditions true) ∨ command = .deleteAll true) :
    ∃ conditions, request = .delete conditions (some (.bool true)) := by
  have hname := name_of_line h hread
  have hdelete : request.fields.1 = "delete" ∨ request.fields.1 = "delete_all" := by
    rw [← hname]
    rcases hcommand with ⟨conditions, rfl⟩ | rfl
    · exact Or.inl rfl
    · exact Or.inr rfl
  cases request with
  | delete conditions confirm =>
    obtain ⟨words, hwords, rfl⟩ := Traversal.map_eq_ok_iff.mp h
    have hsame := read_delete hwords
    rw [hread] at hsame
    cases hsame
    rcases hcommand with ⟨conditions', heq⟩ | heq
    · exact ⟨conditions, by rw [eq_true_of_isTrue (Command.delete.inj heq).2]⟩
    · cases heq
  | list | columns | add | addBatch | update | search | searchExact | error =>
    exact absurd hdelete (by simp [fields])

end Request

/-! ## The gate -/

namespace Table

/-- What a deletion comes to once its rows are selected. -/
theorem delete_of_isMaskOf {t : Table} {conditions : Conditions} {mask : List Bool}
    (h : t.IsMaskOf conditions mask) (hmatched : mask.count true ≠ 0) (confirmed : Bool) :
    t.delete conditions confirmed
      = if mask.count true > unconfirmedLimit && !confirmed then
          .error (.unconfirmedDelete conditions (mask.count true))
        else
          .ok (.write ("Deleted " ++ toString (t.rows.length - (t.remove mask).rows.length) ++
            " row(s). Conditions: " ++ describePairs conditions.entries)
            (t.rows.length - (t.remove mask).rows.length) (t.remove mask)) := by
  unfold delete
  rw [isEmpty_rows_of_count h hmatched, if_neg Bool.false_ne_true, selectAll_of_isMaskOf h hmatched]
  exact if_neg hmatched

/-- Without confirmation, more rows than the limit are not deleted. -/
theorem delete_of_many {t : Table} {conditions : Conditions} {mask : List Bool}
    (h : t.IsMaskOf conditions mask) (hmany : unconfirmedLimit < mask.count true) :
    t.delete conditions false = .error (.unconfirmedDelete conditions (mask.count true)) := by
  have hmatched : mask.count true ≠ 0 := by omega
  rw [delete_of_isMaskOf h hmatched, decide_eq_true hmany]
  rfl

/-- Without confirmation, as many rows as the limit are deleted. -/
theorem delete_of_few {t : Table} {conditions : Conditions} {mask : List Bool}
    (h : t.IsMaskOf conditions mask) (hmatched : mask.count true ≠ 0)
    (hfew : mask.count true ≤ unconfirmedLimit) :
    ∃ applied, t.delete conditions false = .ok applied ∧
      applied.changed = some (t.remove mask) := by
  rw [delete_of_isMaskOf h hmatched, decide_eq_false (Nat.not_lt.mpr hfew)]
  exact ⟨_, rfl, rfl⟩

end Table

namespace Store

/-- The words of the line ask for a deletion by the conditions and do not confirm it. -/
structure DeletesUnconfirmed (line : String) (conditions : Conditions) : Prop where
  words : ∃ first arguments, Words.read line = .ok (first :: arguments) ∧
    lower first = "delete" ∧ ¬ Command.Confirms first arguments
  read : ∃ confirmed, Command.read line = .ok (.delete conditions confirmed)

/-- Such a line gives a deletion that is not confirmed. -/
theorem DeletesUnconfirmed.read_eq {line : String} {conditions : Conditions}
    (h : DeletesUnconfirmed line conditions) :
    Command.read line = .ok (.delete conditions false) := by
  obtain ⟨first, arguments, hwords, -, hno⟩ := h.words
  obtain ⟨confirmed, hread⟩ := h.read
  cases confirmed with
  | false => exact hread
  | true =>
    obtain ⟨first', arguments', hwords', -, hof⟩ := Command.read_eq_ok hread
    rw [hwords] at hwords'
    cases hwords'
    exact absurd (Command.confirms_of_ofWords hof (Or.inl ⟨conditions, rfl⟩)) hno

theorem outcome_delete {store : Store} {t : Table} (h : store.load = .ok t)
    (conditions : Conditions) (confirmed : Bool) :
    store.outcome (.delete conditions confirmed)
      = (t.delete conditions confirmed).mapError .refusal := by
  have htable : store.tableFor (.delete conditions confirmed) = .ok t := by
    rw [tableFor, h]
    rfl
  rw [outcome, htable]
  rfl

/-- A line that makes the saved table much smaller confirms that. -/
theorem confirms_of_savedByLine {store : Store} {t t' : Table} {line : String}
    (hload : store.load = .ok t) (hsaved : store.savedByLine? line = some t')
    (hfewer : t'.rows.length + Table.unconfirmedLimit < t.rows.length) :
    ∃ first arguments, Words.read line = .ok (first :: arguments) ∧
      Command.Confirms first arguments := by
  obtain ⟨command, hread, hsaved⟩ := read_of_savedByLine hsaved
  obtain ⟨loaded, rows, hload', hchanges⟩ := changes_of_saved hsaved
  rw [hload] at hload'
  cases hload'
  obtain ⟨first, arguments, hwords, -, hof⟩ := Command.read_eq_ok hread
  exact ⟨first, arguments, hwords,
    Command.confirms_of_ofWords hof (Table.confirmed_of_changes hchanges hfewer)⟩

/-- A reply that makes the saved table much smaller is a deletion with its confirmation set. -/
theorem confirms_of_savedByReply {store : Store} {t t' : Table} {reply : String}
    (hload : store.load = .ok t) (hsaved : store.savedByReply? reply = some t')
    (hfewer : t'.rows.length + Table.unconfirmedLimit < t.rows.length) :
    ∃ conditions, Reply.read reply = .ok (.delete conditions (some (.bool true))) := by
  obtain ⟨request, hrequest, hsaved⟩ := Option.bind_eq_some_iff.mp hsaved
  obtain ⟨line, hline, hsaved⟩ := Option.bind_eq_some_iff.mp hsaved
  obtain ⟨command, hread, hsaved⟩ := read_of_savedByLine hsaved
  obtain ⟨loaded, rows, hload', hchanges⟩ := changes_of_saved hsaved
  rw [hload] at hload'
  cases hload'
  obtain ⟨conditions, rfl⟩ := Request.delete_of_line (Traversal.toOption_eq_some_iff.mp hline) hread
    (Table.confirmed_of_changes hchanges hfewer)
  exact ⟨conditions, Traversal.toOption_eq_some_iff.mp hrequest⟩

/-- Without its confirmation, `delete_all` leaves the store alone. -/
theorem execute_deleteAll (store : Store) {line first : String} {arguments : List String}
    (hwords : Words.read line = .ok (first :: arguments)) (hfirst : lower first = "delete_all")
    (hno : ¬ Command.Confirms first arguments) : (store.execute line).2 = store := by
  rw [execute_snd]
  cases hsaved : store.savedByLine? line with
  | none => rfl
  | some t' =>
    obtain ⟨command, hread, hsaved⟩ := read_of_savedByLine hsaved
    obtain ⟨t, rows, -, hchanges⟩ := changes_of_saved hsaved
    obtain ⟨first', arguments', hwords', -, hof⟩ := Command.read_eq_ok hread
    rw [hwords] at hwords'
    cases hwords'
    obtain ⟨confirmed, rfl⟩ : ∃ confirmed, command = .deleteAll confirmed := by
      rw [Command.deleteAll_of_ofWords hfirst] at hof
      exact ⟨_, (Except.ok.inj hof).symm⟩
    -- only a confirmed `delete_all` changes a table
    cases hchanges
    exact absurd (Command.confirms_of_ofWords hof (Or.inr rfl)) hno

/-- An unconfirmed deletion of more rows than the limit is refused with their number. -/
theorem execute_delete_of_many {store : Store} {t : Table} {line : String}
    {conditions : Conditions} {mask : List Bool} (hload : store.load = .ok t)
    (hline : DeletesUnconfirmed line conditions) (hmask : t.IsMaskOf conditions mask)
    (hmany : Table.unconfirmedLimit < mask.count true) :
    store.execute line
      = (⟨(Failure.refusal (.unconfirmedDelete conditions (mask.count true))).report, none⟩,
        store) := by
  have houtcome := outcome_delete hload conditions false
  rw [Table.delete_of_many hmask hmany] at houtcome
  unfold execute run
  rw [hline.read_eq]
  simp only [houtcome]
  rfl

/-- An unconfirmed deletion of fewer rows removes just them. -/
theorem saved_delete_of_few {store : Store} {t : Table} {line : String}
    {conditions : Conditions} {mask : List Bool} (hload : store.load = .ok t)
    (hline : DeletesUnconfirmed line conditions) (hmask : t.IsMaskOf conditions mask)
    (hmatched : mask.count true ≠ 0) (hfew : mask.count true ≤ Table.unconfirmedLimit) :
    store.savedByLine? line = some (t.remove mask) := by
  obtain ⟨applied, hdelete, hchanged⟩ := Table.delete_of_few hmask hmatched hfew
  have houtcome := outcome_delete hload conditions false
  rw [hdelete] at houtcome
  unfold savedByLine?
  rw [hline.read_eq]
  exact (saved?_of_outcome houtcome).trans hchanged

/-- A line that takes more than ten rows out of the stored table confirms that in its words, and a
reply that does has the truth value true as its confirmation, whatever its conditions are. Without
its confirmation `delete_all` leaves the store alone; a deletion that matches more than ten rows is
refused with their number, and one that matches ten or fewer removes just those. -/
theorem removal_is_confirmed (store : Store) :
    (∀ line, (store.execute line).2 = store.withSaved (store.savedByLine? line)) ∧
    (∀ reply, (store.executeReply reply).2 = store.withSaved (store.savedByReply? reply)) ∧
    (∀ line first arguments, Words.read line = .ok (first :: arguments) →
      lower first = "delete_all" → ¬ Command.Confirms first arguments →
      (store.execute line).2 = store) ∧
    ∀ t, store.load = .ok t →
      (∀ line t', store.savedByLine? line = some t' → t'.rows.length + 10 < t.rows.length →
        ∃ first arguments, Words.read line = .ok (first :: arguments) ∧
          Command.Confirms first arguments) ∧
      (∀ reply t', store.savedByReply? reply = some t' → t'.rows.length + 10 < t.rows.length →
        ∃ conditions, Reply.read reply = .ok (.delete conditions (some (.bool true)))) ∧
      ∀ line conditions mask, DeletesUnconfirmed line conditions → t.IsMaskOf conditions mask →
        (10 < mask.count true → store.execute line
          = (⟨(Failure.refusal (.unconfirmedDelete conditions (mask.count true))).report, none⟩,
            store)) ∧
        (1 ≤ mask.count true → mask.count true ≤ 10 → ∃ t', store.savedByLine? line = some t' ∧
          t.Removes t' mask ∧ t'.rows.length + mask.count true = t.rows.length) := by
  refine ⟨execute_snd store, executeReply_snd store, ?_, ?_⟩
  · intro line first arguments
    exact execute_deleteAll store
  intro t hload
  refine ⟨?_, ?_, ?_⟩
  · intro line t'
    exact confirms_of_savedByLine hload
  · intro reply t'
    exact confirms_of_savedByReply hload
  · intro line conditions mask hline hmask
    constructor
    · exact execute_delete_of_many hload hline hmask
    · intro hsome hfew
      have hmatched : mask.count true ≠ 0 := by omega
      refine ⟨t.remove mask, saved_delete_of_few hload hline hmask hmatched hfew,
        Table.removes_remove hmask.1, ?_⟩
      exact Table.length_remove (Table.selectAll_of_isMaskOf hmask hmatched)

/-- A line that deletes by one condition does not confirm that. -/
theorem deletesUnconfirmed_of_condition {line : String} (condition : String)
    {conditions : Conditions}
    (hwords : Words.read line = .ok ["delete", condition])
    (hno : sameIgnoringAsciiCase condition "confirm=yes" = false)
    (hread : Command.read line = .ok (.delete conditions false)) :
    DeletesUnconfirmed line conditions := by
  have hdelete : lower "delete" = "delete" := by decide +kernel
  refine ⟨⟨"delete", [condition], hwords, hdelete, ?_⟩, false, hread⟩
  rintro (⟨-, argument, hargument, hyes⟩ | ⟨hall, -⟩)
  · rw [List.mem_singleton.mp hargument, hno] at hyes
    cases hyes
  · rw [hdelete] at hall
    exact absurd hall (by decide)

/-- Twelve rows of one text, and two of another. -/
def twelveAndTwo : Table :=
  ⟨[⟨"n", .text⟩], List.replicate 12 [.text "x"] ++ List.replicate 2 [.text "y"]⟩

/-- The twelve rows go by a confirmed line or reply only; the two go at once. -/
theorem removal_is_confirmed_twelve_and_two :
    let store := Store.memory twelveAndTwo
    let reply :=
      "\x7b\"operation\":\"delete\",\"conditions\":\x7b\"n\":\"x\"\x7d,\"confirm\":true\x7d"
    (∃ first arguments, Words.read "Delete n=x CONFIRM=yes" = .ok (first :: arguments) ∧
      Command.Confirms first arguments) ∧
    (∃ conditions, Reply.read reply = .ok (.delete conditions (some (.bool true)))) ∧
    (store.execute "delete_all yes").2 = store ∧
    store.execute "delete n=x"
      = (⟨(Failure.refusal (.unconfirmedDelete (.ofList [("n", "x")]) 12)).report, none⟩, store) ∧
    ∃ t', store.savedByLine? "delete n=y" = some t' ∧ t'.rows.length + 2 = 14 := by
  intro store reply
  have hgate := removal_is_confirmed store
  have hstored := hgate.2.2.2 twelveAndTwo rfl
  have hmask : ∀ {conditions mask}, (twelveAndTwo.selectAll conditions).toOption = some mask →
      twelveAndTwo.IsMaskOf conditions mask := by
    intro conditions mask h
    exact Table.isMaskOf_of_selectAll
      (Traversal.mapError_eq_ok_iff.mpr (Traversal.toOption_eq_some_iff.mp h))
  refine ⟨?_, ?_, ?_, ?_, ?_⟩
  · exact hstored.1 _ { twelveAndTwo with rows := List.replicate 2 [.text "y"] }
      (by decide +kernel) (by decide)
  · exact hstored.2.1 _ { twelveAndTwo with rows := List.replicate 2 [.text "y"] }
      (by decide +kernel) (by decide)
  · refine hgate.2.2.1 _ "delete_all" ["yes"]
      (Traversal.toOption_eq_some_iff.mp (by decide +kernel)) (by decide +kernel) ?_
    rintro (⟨hdelete, -⟩ | ⟨-, given, hgiven, hyes⟩)
    · exact absurd hdelete (by decide +kernel)
    · rw [← Option.some.inj hgiven] at hyes
      exact absurd hyes (by decide +kernel)
  · have hline : DeletesUnconfirmed "delete n=x" (.ofList [("n", "x")]) :=
      deletesUnconfirmed_of_condition "n=x"
        (Traversal.toOption_eq_some_iff.mp (by decide +kernel)) (by decide +kernel)
        (Traversal.toOption_eq_some_iff.mp (by decide +kernel))
    exact (hstored.2.2 _ _ (List.replicate 12 true ++ List.replicate 2 false) hline
      (hmask (by decide +kernel))).1 (by decide)
  · have hline : DeletesUnconfirmed "delete n=y" (.ofList [("n", "y")]) :=
      deletesUnconfirmed_of_condition "n=y"
        (Traversal.toOption_eq_some_iff.mp (by decide +kernel)) (by decide +kernel)
        (Traversal.toOption_eq_some_iff.mp (by decide +kernel))
    obtain ⟨t', hsaved, -, hlength⟩ := (hstored.2.2 _ _
      (List.replicate 12 false ++ List.replicate 2 true) hline (hmask (by decide +kernel))).2
      (by decide) (by decide)
    exact ⟨t', hsaved, hlength⟩

end Store
end TableShell
