import TableShell.Proofs.Command.Reading
import TableShell.Proofs.Text.Trimming

/-!
# The form of a command that was read

A command with maps has the form that its effect relies on, whatever the line was
(`formedFrom_of_read`): no map is empty, no key holds an `=`, and each map holds what certain
arguments of the line give, a key in its first place with its last value. The lists of a batch are
as long as its row count, an update parts its arguments at the first `set`, and no condition of a
deletion is its confirmation.
-/

namespace TableShell
namespace Command

open Text

/-! ## Maps and the arguments they were read off -/

/-- The argument is a pair with the key of the entry and a text that gives its value. -/
def Denotes {α : Type} (gives : String → α → Prop) (text : String) (entry : String × α) : Prop :=
  '=' ∉ entry.1.toList ∧ ∃ value, text = entry.1 ++ "=" ++ value ∧ gives value entry.2

/-- The map was read off the arguments, which are not none: they all denote an entry, each key
stands where it came first, and it has the value that came last. -/
structure ReadsAs {α : Type} (gives : String → α → Prop) (texts : List String)
    (m : OrderedMap α) : Prop where
  entries_ne_nil : m.entries ≠ []
  keys_fit : ∀ entry ∈ m.entries, '=' ∉ entry.1.toList
  written : ∃ given : List (String × α), List.Forall₂ (Denotes gives) texts given ∧
    m.keys = (given.map Prod.fst).eraseDups ∧ ∀ key, m.get? key = given.reverse.lookup key

/-- The values of the list are the trimmed parts of the text between its commas. -/
def ListsValues (text : String) (values : List String) : Prop :=
  ∃ parts, parts ≠ [] ∧ (∀ part ∈ parts, ',' ∉ part.toList) ∧ text = ",".intercalate parts ∧
    values = parts.map trim

/-- Writing what the arguments denote makes a map that was read off them. -/
theorem readsAs_ofList {α : Type} {gives : String → α → Prop} {texts : List String}
    {given : List (String × α)} (hne : given ≠ [])
    (h : List.Forall₂ (Denotes gives) texts given) : ReadsAs gives texts (.ofList given) where
  entries_ne_nil := by
    have hempty := OrderedMap.isEmpty_ofList given
    rw [List.isEmpty_eq_false_iff.mpr hne] at hempty
    exact List.isEmpty_eq_false_iff.mp hempty
  keys_fit := by
    intro entry hentry
    obtain ⟨before, after, rfl, -⟩ := OrderedMap.mem_entries_ofList.mp hentry
    obtain ⟨-, -, hfree, -⟩ :=
      Traversal.exists_of_mem_forall₂ h (List.mem_append_right before List.mem_cons_self)
    exact hfree
  written := ⟨given, h, OrderedMap.keys_ofList given, OrderedMap.get?_ofList given⟩

/-- Each entry of the map is denoted by one of the arguments. -/
theorem ReadsAs.exists_denotes {α : Type} {gives : String → α → Prop} {texts : List String}
    {m : OrderedMap α} (h : ReadsAs gives texts m) {entry : String × α}
    (hentry : entry ∈ m.entries) : ∃ text ∈ texts, Denotes gives text entry := by
  obtain ⟨given, hgiven, -, hlast⟩ := h.written
  have hlookup : given.reverse.lookup entry.1 = some entry.2 := by
    rw [← hlast, OrderedMap.get?_of_mem hentry]
  obtain ⟨later, earlier, hreverse, -⟩ := List.lookup_eq_some_iff.mp hlookup
  have hmem : entry ∈ given := by
    rw [← List.mem_reverse, hreverse]
    exact List.mem_append_right later List.mem_cons_self
  exact Traversal.exists_of_mem_forall₂ hgiven hmem

/-- An argument that is cut into a pair denotes it. -/
theorem denotes_of_pair? {text : String} {pair : String × String} (h : pair? text = some pair) :
    Denotes Eq text pair := by
  obtain ⟨hfree, hsame⟩ := argument_of_pair? h
  exact ⟨hfree, pair.2, hsame.symm, rfl⟩

/-- A map that takes only pairs was read off all its arguments. -/
theorem readsAs_of_strictPairs {role : PairRole} {texts : List String} {m : OrderedMap String}
    (hne : texts ≠ []) (h : strictPairs role texts = .ok m) : ReadsAs Eq texts m := by
  obtain ⟨pairs, hpairs, rfl⟩ := strictPairs_eq_ok h
  apply readsAs_ofList
  · rintro rfl
    exact hne (List.map_eq_nil_iff.mp hpairs)
  · rw [← List.forall₂_eq_eq_eq, List.forall₂_map_left_iff, List.forall₂_map_right_iff] at hpairs
    exact hpairs.imp fun _ _ => denotes_of_pair?

/-- The arguments that are pairs. -/
def pairArguments (arguments : List String) : List String :=
  arguments.filter fun argument => '=' ∈ argument.toList

/-- Only arguments with an `=` are cut into pairs. -/
theorem denotes_filterMap_pair? (arguments : List String) :
    List.Forall₂ (Denotes Eq) (pairArguments arguments) (arguments.filterMap pair?) := by
  induction arguments with
  | nil => exact .nil
  | cons argument arguments ih =>
    rw [pairArguments, List.filter_cons, List.filterMap_cons]
    cases hpair : pair? argument with
    | none =>
      have hfree : '=' ∉ argument.toList :=
        splitFirst?_eq_none_iff.mp (Option.map_eq_none_iff.mp hpair)
      rw [if_neg (by simpa using hfree)]
      exact ih
    | some pair =>
      obtain ⟨-, value, hvalue, -⟩ := denotes_of_pair? hpair
      rw [if_pos (by rw [hvalue]; simp [String.toList_append])]
      exact .cons (denotes_of_pair? hpair) ih

/-- The values of a list are its parts. -/
theorem listsValues_listValues (text : String) : ListsValues text (listValues text) := by
  refine ⟨(pieces ',' text.toList).map String.ofList, ?_, ?_, ?_, ?_⟩
  · simpa using pieces_ne_nil ',' text.toList
  · intro part hpart
    obtain ⟨piece, hpiece, rfl⟩ := List.mem_map.mp hpart
    rw [String.toList_ofList]
    exact not_mem_of_mem_pieces hpiece
  · apply String.toList_injective
    have hcomma : ",".toList = [','] := rfl
    rw [String.toList_intercalate, hcomma, List.map_map]
    have hid : String.toList ∘ String.ofList = id := by
      funext cs
      exact String.toList_ofList
    rw [hid, List.map_id, intercalate_pieces]
  · rw [listValues, List.map_map]
    refine List.map_congr_left fun piece _ => ?_
    rw [Function.comp_apply, trim, String.toList_ofList]

/-! ## Commands and the arguments they were read off -/

/-- The command has the form that such arguments can give it. The map of an addition is read off the
pairs among them, those of an update off the arguments around the first `set`, and that of a deletion
off all but its confirmations. -/
def FormedFrom (arguments : List String) : Command → Prop
  | add values => ReadsAs Eq (pairArguments arguments) values
  | addBatch lists rowCount =>
    ReadsAs ListsValues (pairArguments arguments) lists ∧ 1 ≤ rowCount ∧
      ∀ entry ∈ lists.entries, entry.2.length = rowCount ∧
        ∀ value ∈ entry.2, ',' ∉ value.toList ∧ trim value = value
  | update conditions assignments =>
    ∃ before after, arguments = before ++ setWord :: after ∧ setWord ∉ before ∧
      ReadsAs Eq before conditions ∧ ReadsAs Eq after assignments
  | delete conditions confirmed =>
    ReadsAs Eq (arguments.filter fun argument => !isDeleteConfirmation argument) conditions ∧
      (∀ entry ∈ conditions.entries, isDeleteConfirmation (argument entry) = false) ∧
      (confirmed = true ↔ ∃ argument ∈ arguments, isDeleteConfirmation argument = true)
  | _ => True

theorem formedFrom_of_readAdd {arguments : List String} {values : Assignments}
    (h : readAdd arguments = .ok (add values)) : (add values).FormedFrom arguments := by
  rw [readAdd] at h
  split at h
  · cases h
  · rename_i hempty
    cases h
    rw [loosePairs, OrderedMap.isEmpty_ofList] at hempty
    exact readsAs_ofList (by simpa using hempty) (denotes_filterMap_pair? arguments)

/-- Values of a list hold no comma and are trimmed. -/
theorem ListsValues.mem {text : String} {values : List String} (h : ListsValues text values)
    {value : String} (hvalue : value ∈ values) : ',' ∉ value.toList ∧ trim value = value := by
  obtain ⟨parts, -, hfree, -, rfl⟩ := h
  obtain ⟨part, hpart, rfl⟩ := List.mem_map.mp hvalue
  refine ⟨fun hmem => hfree part hpart ?_, trim_trim part⟩
  rw [toList_trim] at hmem
  exact mem_of_mem_trimChars hmem

/-- Lists that pass the check have the length that it gives. -/
theorem length_of_checkLengths {lists : List (String × List String)} {n : ℕ}
    (h : checkLengths lists = .ok n) : ∀ entry ∈ lists, entry.2.length = n := by
  rw [checkLengths.eq_def] at h
  split at h
  · exact fun entry hentry => absurd hentry List.not_mem_nil
  · rename_i column values rest
    split at h
    · rename_i hnone
      cases h
      refine List.forall_mem_cons.mpr ⟨rfl, fun entry hentry => ?_⟩
      simpa using List.find?_eq_none.mp hnone entry hentry
    · cases h

theorem formedFrom_of_readAddBatch {arguments : List String}
    {columns : OrderedMap (List String)} {rowCount : ℕ}
    (h : readAddBatch arguments = .ok (addBatch columns rowCount)) :
    (addBatch columns rowCount).FormedFrom arguments := by
  rw [readAddBatch] at h
  split at h
  · cases h
  · rename_i hempty
    obtain ⟨n, hlengths, h⟩ := Traversal.map_eq_ok_iff.mp h
    cases h
    rw [loosePairs, OrderedMap.isEmpty_ofList] at hempty
    have hlists : ReadsAs ListsValues (pairArguments arguments)
        ((loosePairs arguments).map listValues) := by
      rw [loosePairs, OrderedMap.map_ofList]
      refine readsAs_ofList (by simpa using hempty) ?_
      rw [List.forall₂_map_right_iff]
      refine (denotes_filterMap_pair? arguments).imp fun text pair hdenotes => ?_
      obtain ⟨hfree, value, hvalue, rfl⟩ := hdenotes
      exact ⟨hfree, _, hvalue, listsValues_listValues _⟩
    have hlengths := length_of_checkLengths hlengths
    refine ⟨hlists, ?_, fun entry hentry => ⟨hlengths entry hentry, fun value hvalue => ?_⟩⟩
    · -- every text has a part, so the list of any column has a value
      obtain ⟨entry, hentry⟩ := List.exists_mem_of_ne_nil _ hlists.entries_ne_nil
      obtain ⟨-, -, -, -, -, parts, hne, -, -, hparts⟩ := hlists.exists_denotes hentry
      rw [← hlengths entry hentry, hparts, List.length_map]
      exact List.length_pos_iff.mpr hne
    · obtain ⟨-, -, -, text, -, hlist⟩ := hlists.exists_denotes hentry
      exact hlist.mem hvalue

theorem formedFrom_of_readUpdate {arguments : List String} {conditions : Conditions}
    {assignments : Assignments} (h : readUpdate arguments = .ok (update conditions assignments)) :
    (update conditions assignments).FormedFrom arguments := by
  obtain ⟨before, after, hparts, hfirst, hbefore, hafter, hconditions, hassignments⟩ :=
    arguments_of_readUpdate h
  exact ⟨before, after, hparts, hfirst, readsAs_of_strictPairs hbefore hconditions,
    readsAs_of_strictPairs hafter hassignments⟩

theorem formedFrom_of_readDelete {arguments : List String} {conditions : Conditions}
    {confirmed : Bool} (h : readDelete arguments = .ok (delete conditions confirmed)) :
    (delete conditions confirmed).FormedFrom arguments := by
  obtain ⟨hne, hstrict, rfl⟩ := readDelete_eq_ok_iff.mp h
  have hreads := readsAs_of_strictPairs hne hstrict
  refine ⟨hreads, fun entry hentry => ?_, List.any_eq_true⟩
  obtain ⟨text, htext, -, value, rfl, rfl⟩ := hreads.exists_denotes hentry
  simpa [argument] using (List.mem_filter.mp htext).2

/-- Every command that is read off a line has the form that the other words than the first can give
it; the first word names it. -/
theorem formedFrom_of_read {line : String} {command : Command} (h : read line = .ok command) :
    ∃ first arguments, Words.read line = .ok (first :: arguments) ∧ command.name = lower first ∧
      command.FormedFrom arguments := by
  obtain ⟨first, arguments, hwords, hname, hof⟩ := read_eq_ok h
  refine ⟨first, arguments, hwords, hname, ?_⟩
  cases command with
  | add values =>
    have hreader : ("add", readAdd) ∈ readers := by simp [readers]
    exact formedFrom_of_readAdd (reader_of_ofWords hreader hof rfl)
  | addBatch columns rowCount =>
    have hreader : ("add_batch", readAddBatch) ∈ readers := by simp [readers]
    exact formedFrom_of_readAddBatch (reader_of_ofWords hreader hof rfl)
  | update conditions assignments => exact formedFrom_of_readUpdate (readUpdate_of_ofWords hof rfl)
  | delete conditions confirmed => exact formedFrom_of_readDelete (readDelete_of_ofWords hof rfl)
  | help | clear | list | columns | deleteAll | search | searchExact => trivial

/-- The second list of names takes the place of the first, and the stray word does not matter. -/
theorem formedFrom_of_read_batch :
    let lists : OrderedMap (List String) := .ofList [("name", ["Ann", "Bob"]), ("age", ["30", ""])]
    read "Add_Batch name=Tom stray age=30, name='Ann , Bob'" = .ok (addBatch lists 2) ∧
      (addBatch lists 2).FormedFrom ["name=Tom", "stray", "age=30,", "name=Ann , Bob"] := by
  intro lists
  have hread : read "Add_Batch name=Tom stray age=30, name='Ann , Bob'" = .ok (addBatch lists 2) :=
    Traversal.toOption_eq_some_iff.mp (by decide +kernel)
  have hwords : Words.read "Add_Batch name=Tom stray age=30, name='Ann , Bob'"
      = .ok ["Add_Batch", "name=Tom", "stray", "age=30,", "name=Ann , Bob"] :=
    Traversal.toOption_eq_some_iff.mp (by decide +kernel)
  obtain ⟨first, arguments, hfound, -, hform⟩ := formedFrom_of_read hread
  rw [hwords] at hfound
  cases hfound
  exact ⟨hread, hform⟩

end Command
end TableShell
