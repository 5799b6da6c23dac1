import TableShell.Proofs.Command.Arguments

/-!
# What a read command is made of

The first word of a line names its command (`name_of_ofWords`), which is read off the other words
(`reader_of_ofWords`). A deletion or an update that is read has the pairs of certain arguments as
its conditions (`readDelete_eq_ok`, `readUpdate_eq_ok`).
-/

namespace TableShell
namespace Command

open Text

/-! ## The command word -/

theorem name_of_readAdd {arguments : List String} {command : Command}
    (h : readAdd arguments = .ok command) : command.name = "add" := by
  rw [readAdd] at h
  split at h <;> cases h
  rfl

theorem name_of_readAddBatch {arguments : List String} {command : Command}
    (h : readAddBatch arguments = .ok command) : command.name = "add_batch" := by
  rw [readAddBatch] at h
  split at h
  · cases h
  · obtain ⟨n, -, rfl⟩ := Traversal.map_eq_ok_iff.mp h
    rfl

theorem name_of_readSearch {arguments : List String} {command : Command}
    (h : readSearch arguments = .ok command) : command.name = "search" := by
  rw [readSearch.eq_def] at h
  split at h <;> cases h
  rfl

theorem name_of_readSearchExact {arguments : List String} {command : Command}
    (h : readSearchExact arguments = .ok command) : command.name = "search_exact" := by
  rw [readSearchExact.eq_def] at h
  split at h
  · split at h <;> cases h
    rfl
  · cases h

/-! ## Pairs that were read -/

/-- Pairs are read only off arguments that are all pairs. -/
theorem strictPairs_eq_ok {role : PairRole} {arguments : List String} {m : OrderedMap String}
    (h : strictPairs role arguments = .ok m) :
    ∃ pairs, arguments.map pair? = pairs.map some ∧ m = .ofList pairs := by
  obtain ⟨pairs, hpairs, rfl⟩ := Traversal.map_eq_ok_iff.mp h
  refine ⟨pairs, ?_, rfl⟩
  have hstep : List.Forall₂ (fun argument pair => pair? argument = some pair) arguments pairs := by
    refine (Traversal.mapM_eq_ok_iff.mp hpairs).imp fun argument pair hpair => ?_
    split at hpair
    · rename_i found hfound
      cases hpair
      exact hfound
    · cases hpair
  rw [← List.forall₂_eq_eq_eq, List.forall₂_map_left_iff, List.forall₂_map_right_iff]
  exact hstep

/-- A deletion has the pairs of all arguments but its confirmations. -/
theorem readDelete_eq_ok {arguments : List String} {command : Command}
    (h : readDelete arguments = .ok command) :
    ∃ pairs, (arguments.filter fun argument => !isDeleteConfirmation argument).map pair?
        = pairs.map some ∧
      command = delete (.ofList pairs) (arguments.any isDeleteConfirmation) := by
  rw [readDelete] at h
  split at h
  · cases h
  · split at h
    · cases h
    · obtain ⟨conditions, hconditions, h⟩ := Traversal.bind_eq_ok_iff.mp h
      obtain ⟨pairs, hpairs, rfl⟩ := strictPairs_eq_ok hconditions
      cases h
      exact ⟨pairs, hpairs, rfl⟩

/-- A deletion is read off arguments that are pairs but for confirmations, and not only these. -/
theorem readDelete_eq_ok_iff {arguments : List String} {conditions : Conditions}
    {confirmed : Bool} :
    readDelete arguments = .ok (.delete conditions confirmed) ↔
      (arguments.filter fun argument => !isDeleteConfirmation argument) ≠ [] ∧
      strictPairs .deleteCondition (arguments.filter fun argument => !isDeleteConfirmation argument)
        = .ok conditions ∧
      arguments.any isDeleteConfirmation = confirmed := by
  unfold readDelete
  cases hpairs : (arguments.filter fun argument => !isDeleteConfirmation argument) with
  | nil =>
    refine iff_of_false ?_ fun h => h.1 rfl
    split <;> exact fun h => by cases h
  | cons first rest =>
    have hne : arguments.isEmpty = false := by
      rw [List.isEmpty_eq_false_iff]
      rintro rfl
      cases hpairs
    simp only [hne, Bool.false_eq_true, if_false, List.isEmpty_cons]
    cases strictPairs .deleteCondition (first :: rest) with
    | error e => simp [bind, Except.bind]
    | ok found => simp [bind, Except.bind, pure, Except.pure]

/-- An update has the pairs of the arguments before its first `set`. -/
theorem readUpdate_eq_ok {arguments : List String} {command : Command}
    (h : readUpdate arguments = .ok command) :
    ∃ pairs assignments, (arguments.takeWhile (· ≠ setWord)).map pair? = pairs.map some ∧
      command = update (.ofList pairs) assignments := by
  rw [readUpdate] at h
  split at h
  · cases h
  · split at h
    · cases h
    · split at h
      · cases h
      · obtain ⟨conditions, hconditions, h⟩ := Traversal.bind_eq_ok_iff.mp h
        obtain ⟨assignments, -, h⟩ := Traversal.bind_eq_ok_iff.mp h
        obtain ⟨pairs, hpairs, rfl⟩ := strictPairs_eq_ok hconditions
        cases h
        exact ⟨pairs, assignments, hpairs, rfl⟩

/-- The arguments of an update are the pairs of its conditions, `set`, and the pairs of its
assignments. -/
theorem arguments_of_readUpdate {arguments : List String} {conditions : Conditions}
    {assignments : Assignments}
    (h : readUpdate arguments = .ok (.update conditions assignments)) :
    ∃ before after, arguments = before ++ setWord :: after ∧ setWord ∉ before ∧ before ≠ [] ∧
      after ≠ [] ∧ strictPairs .updateCondition before = .ok conditions ∧
      strictPairs .updateAssignment after = .ok assignments := by
  rw [readUpdate] at h
  split at h
  · cases h
  · rename_i word after hafter
    have hparts := List.takeWhile_append_dropWhile (p := (· ≠ setWord)) (l := arguments)
    -- what is not dropped begins with the first argument that fails the test
    have hword : word = setWord := by
      have hhead := List.head?_dropWhile_not (· ≠ setWord) arguments
      rw [hafter] at hhead
      simpa using hhead
    rw [hafter, hword] at hparts
    split at h
    · cases h
    · rename_i hbefore
      split at h
      · cases h
      · rename_i hafter'
        obtain ⟨_, hconditions, h⟩ := Traversal.bind_eq_ok_iff.mp h
        obtain ⟨_, hassignments, h⟩ := Traversal.bind_eq_ok_iff.mp h
        cases h
        refine ⟨_, after, hparts.symm, ?_, ?_, ?_, hconditions, hassignments⟩
        · intro hmem
          simpa using List.all_eq_true.mp List.all_takeWhile setWord hmem
        · simpa using hbefore
        · simpa using hafter'

/-- The first word of a line names the command, in any letter case. -/
theorem name_of_ofWords {first : String} {arguments : List String} {command : Command}
    (h : ofWords (first :: arguments) = .ok command) : command.name = lower first := by
  rw [ofWords] at h
  rcases ite_eq_iff.mp h with ⟨hword, h⟩ | ⟨-, h⟩
  · cases h
    exact hword.symm
  rcases ite_eq_iff.mp h with ⟨hword, h⟩ | ⟨-, h⟩
  · cases h
    exact hword.symm
  rcases ite_eq_iff.mp h with ⟨hword, h⟩ | ⟨-, h⟩
  · cases h
    exact hword.symm
  rcases ite_eq_iff.mp h with ⟨hword, h⟩ | ⟨-, h⟩
  · cases h
    exact hword.symm
  rcases ite_eq_iff.mp h with ⟨hword, h⟩ | ⟨-, h⟩
  · rw [name_of_readAdd h, hword]
  rcases ite_eq_iff.mp h with ⟨hword, h⟩ | ⟨-, h⟩
  · rw [name_of_readAddBatch h, hword]
  rcases ite_eq_iff.mp h with ⟨hword, h⟩ | ⟨-, h⟩
  · obtain ⟨_, _, -, rfl⟩ := readUpdate_eq_ok h
    exact hword.symm
  rcases ite_eq_iff.mp h with ⟨hword, h⟩ | ⟨-, h⟩
  · obtain ⟨_, -, rfl⟩ := readDelete_eq_ok h
    exact hword.symm
  rcases ite_eq_iff.mp h with ⟨hword, h⟩ | ⟨-, h⟩
  · cases h
    exact hword.symm
  rcases ite_eq_iff.mp h with ⟨hword, h⟩ | ⟨-, h⟩
  · rw [name_of_readSearch h, hword]
  rcases ite_eq_iff.mp h with ⟨hword, h⟩ | ⟨-, h⟩
  · rw [name_of_readSearchExact h, hword]
  cases h

/-- A command that is read off a line is that of a first word and its arguments. -/
theorem read_eq_ok {line : String} {command : Command} (h : read line = .ok command) :
    ∃ first arguments, Words.read line = .ok (first :: arguments) ∧ command.name = lower first ∧
      ofWords (first :: arguments) = .ok command := by
  obtain ⟨words, hwords, h⟩ := Traversal.bind_eq_ok_iff.mp h
  cases words with
  | nil => cases h
  | cons first arguments =>
    exact ⟨first, arguments, Traversal.mapError_eq_ok_iff.mp hwords, name_of_ofWords h, h⟩

/-- A command is read off the arguments of its line by the reader of its word. -/
theorem reader_of_ofWords {word first : String}
    {reader : List String → Except LineError Command} {arguments : List String}
    {command : Command} (hreader : (word, reader) ∈ readers)
    (h : ofWords (first :: arguments) = .ok command) (hname : command.name = word) :
    reader arguments = .ok command := by
  have hfirst : lower first = word := by rw [← name_of_ofWords h, hname]
  rw [← ofWords_of_mem_readers hreader, ← h, ofWords, ofWords, hfirst,
    lower_of_mem_readers hreader]

/-- A deletion is read off the arguments of its line. -/
theorem readDelete_of_ofWords {first : String} {arguments : List String} {command : Command}
    (h : ofWords (first :: arguments) = .ok command) (hname : command.name = "delete") :
    readDelete arguments = .ok command :=
  reader_of_ofWords (by simp [readers]) h hname

/-- An update is read off the arguments of its line. -/
theorem readUpdate_of_ofWords {first : String} {arguments : List String} {command : Command}
    (h : ofWords (first :: arguments) = .ok command) (hname : command.name = "update") :
    readUpdate arguments = .ok command :=
  reader_of_ofWords (by simp [readers]) h hname

/-! ## Errors -/

theorem strictPairs_ne_words (role : PairRole) (arguments : List String) (cause : Words.Error) :
    strictPairs role arguments ≠ .error (.words cause) := by
  refine Traversal.map_ne_error (Traversal.mapM_ne_error (fun argument => ?_) arguments)
  split <;> exact fun h => by cases h

theorem checkLengths_ne_words (lists : List (String × List String)) (cause : Words.Error) :
    checkLengths lists ≠ .error (.words cause) := by
  rw [checkLengths.eq_def]
  split
  · exact fun h => by cases h
  · split <;> exact fun h => by cases h

theorem readAdd_ne_words (arguments : List String) (cause : Words.Error) :
    readAdd arguments ≠ .error (.words cause) := by
  rw [readAdd]
  split <;> exact fun h => by cases h

theorem readAddBatch_ne_words (arguments : List String) (cause : Words.Error) :
    readAddBatch arguments ≠ .error (.words cause) := by
  rw [readAddBatch]
  split
  · exact fun h => by cases h
  · exact Traversal.map_ne_error (checkLengths_ne_words _ cause)

theorem readUpdate_ne_words (arguments : List String) (cause : Words.Error) :
    readUpdate arguments ≠ .error (.words cause) := by
  rw [readUpdate]
  split
  · exact fun h => by cases h
  · split
    · exact fun h => by cases h
    · split
      · exact fun h => by cases h
      · exact Traversal.bind_ne_error (strictPairs_ne_words _ _ cause) fun _ =>
          Traversal.bind_ne_error (strictPairs_ne_words _ _ cause) fun _ h => by cases h

theorem readDelete_ne_words (arguments : List String) (cause : Words.Error) :
    readDelete arguments ≠ .error (.words cause) := by
  rw [readDelete]
  split
  · exact fun h => by cases h
  · split
    · exact fun h => by cases h
    · exact Traversal.bind_ne_error (strictPairs_ne_words _ _ cause) fun _ h => by cases h

theorem readSearch_ne_words (arguments : List String) (cause : Words.Error) :
    readSearch arguments ≠ .error (.words cause) := by
  rw [readSearch.eq_def]
  split <;> exact fun h => by cases h

theorem readSearchExact_ne_words (arguments : List String) (cause : Words.Error) :
    readSearchExact arguments ≠ .error (.words cause) := by
  rw [readSearchExact.eq_def]
  split
  · split <;> exact fun h => by cases h
  · exact fun h => by cases h

/-- With the words of a line, nothing is wrong as words any more. -/
theorem ofWords_ne_words (words : List String) (cause : Words.Error) :
    ofWords words ≠ .error (.words cause) := by
  cases words with
  | nil => exact fun h => by cases h
  | cons first arguments =>
    intro h
    rw [ofWords] at h
    rcases ite_eq_iff.mp h with ⟨-, h⟩ | ⟨-, h⟩
    · cases h
    rcases ite_eq_iff.mp h with ⟨-, h⟩ | ⟨-, h⟩
    · cases h
    rcases ite_eq_iff.mp h with ⟨-, h⟩ | ⟨-, h⟩
    · cases h
    rcases ite_eq_iff.mp h with ⟨-, h⟩ | ⟨-, h⟩
    · cases h
    rcases ite_eq_iff.mp h with ⟨-, h⟩ | ⟨-, h⟩
    · exact readAdd_ne_words arguments cause h
    rcases ite_eq_iff.mp h with ⟨-, h⟩ | ⟨-, h⟩
    · exact readAddBatch_ne_words arguments cause h
    rcases ite_eq_iff.mp h with ⟨-, h⟩ | ⟨-, h⟩
    · exact readUpdate_ne_words arguments cause h
    rcases ite_eq_iff.mp h with ⟨-, h⟩ | ⟨-, h⟩
    · exact readDelete_ne_words arguments cause h
    rcases ite_eq_iff.mp h with ⟨-, h⟩ | ⟨-, h⟩
    · cases h
    rcases ite_eq_iff.mp h with ⟨-, h⟩ | ⟨-, h⟩
    · exact readSearch_ne_words arguments cause h
    rcases ite_eq_iff.mp h with ⟨-, h⟩ | ⟨-, h⟩
    · exact readSearchExact_ne_words arguments cause h
    cases h

end Command
end TableShell
