import TableShell.Command.Line
import TableShell.Proofs.Except.Traversal
import TableShell.Proofs.OrderedMap.Written
import TableShell.Proofs.Text.Cutting

/-!
# Arguments of commands

A pair is written as an argument by putting `=` between key and value. A key without `=` is got
back from it, so a map whose keys are such is got back from its arguments, whether a command takes
stray arguments (`loosePairs_arguments`) or refuses them (`strictPairs_arguments`).
-/

namespace TableShell
namespace Command

open Text

/-! ## The command word -/

/-- The readers of the commands that a structured request can mean, by the word of each. -/
def readers : List (String × (List String → Except LineError Command)) :=
  [("list", fun _ => .ok list), ("columns", fun _ => .ok columns), ("add", readAdd),
    ("add_batch", readAddBatch), ("update", readUpdate), ("delete", readDelete),
    ("search", readSearch), ("search_exact", readSearchExact)]

/-- Command words are written in small letters. -/
theorem lower_of_mem_readers {word : String} {reader : List String → Except LineError Command}
    (h : (word, reader) ∈ readers) : lower word = word := by
  have hlower : ∀ entry ∈ readers, lower entry.1 = entry.1 := by decide
  exact hlower (word, reader) h

/-- The reader of a command word reads the arguments behind that word. -/
theorem ofWords_of_mem_readers {word : String} {reader : List String → Except LineError Command}
    (h : (word, reader) ∈ readers) (arguments : List String) :
    ofWords (word :: arguments) = reader arguments := by
  rw [ofWords, lower_of_mem_readers h]
  simp only [readers, List.mem_cons, Prod.mk.injEq, List.not_mem_nil, or_false] at h
  rcases h with ⟨rfl, rfl⟩ | ⟨rfl, rfl⟩ | ⟨rfl, rfl⟩ | ⟨rfl, rfl⟩ | ⟨rfl, rfl⟩ | ⟨rfl, rfl⟩ |
    ⟨rfl, rfl⟩ | ⟨rfl, rfl⟩ <;> rfl

/-! ## Pairs -/

/-- The argument that stands for a pair. -/
def argument (pair : String × String) : String :=
  pair.1 ++ "=" ++ pair.2

/-- An argument is cut at its first `=`. -/
theorem pair?_argument {pair : String × String} (h : '=' ∉ pair.1.toList) :
    pair? (argument pair) = some pair := by
  have hcut : splitFirst? '=' (argument pair).toList = some (pair.1.toList, pair.2.toList) := by
    rw [splitFirst?_eq_some_iff]
    refine ⟨?_, h⟩
    rw [argument, String.toList_append, String.toList_append, List.append_assoc]
    rfl
  rw [pair?, hcut, Option.map_some, String.ofList_toList, String.ofList_toList]

/-- A pair that was cut from an argument is that argument again. -/
theorem argument_of_pair? {given : String} {pair : String × String} (h : pair? given = some pair) :
    '=' ∉ pair.1.toList ∧ argument pair = given := by
  obtain ⟨parts, hparts, rfl⟩ := Option.map_eq_some_iff.mp h
  obtain ⟨htext, hfree⟩ := splitFirst?_eq_some_iff.mp hparts
  refine ⟨by rwa [String.toList_ofList], ?_⟩
  apply String.toList_injective
  rw [htext]
  simp [argument, String.toList_append]

theorem loosePairs_map_argument {pairs : List (String × String)}
    (h : ∀ pair ∈ pairs, '=' ∉ pair.1.toList) :
    loosePairs (pairs.map argument) = .ofList pairs := by
  have hall : pairs.filterMap (pair? ∘ argument) = pairs.filterMap some :=
    List.filterMap_congr fun pair hpair => pair?_argument (h pair hpair)
  rw [loosePairs, List.filterMap_map, hall, List.filterMap_some]

theorem strictPairs_map_argument (role : PairRole) {pairs : List (String × String)}
    (h : ∀ pair ∈ pairs, '=' ∉ pair.1.toList) :
    strictPairs role (pairs.map argument) = .ok (.ofList pairs) := by
  rw [strictPairs]
  refine Traversal.map_eq_ok_iff.mpr ⟨pairs, Traversal.mapM_eq_ok_iff.mpr ?_, rfl⟩
  rw [List.forall₂_map_left_iff, List.forall₂_same]
  intro pair hpair
  simp only [pair?_argument (h pair hpair)]

/-- The pairs of a map as arguments. -/
def arguments (pairs : OrderedMap String) : List String :=
  pairs.entries.map argument

/-- No key of the map holds the `=` at which an argument is cut. -/
def KeysFit (pairs : OrderedMap String) : Prop :=
  ∀ pair ∈ pairs.entries, '=' ∉ pair.1.toList

theorem loosePairs_arguments {pairs : OrderedMap String} (h : KeysFit pairs) :
    loosePairs (arguments pairs) = pairs := by
  rw [arguments, loosePairs_map_argument h, OrderedMap.ofList_entries]

theorem strictPairs_arguments (role : PairRole) {pairs : OrderedMap String} (h : KeysFit pairs) :
    strictPairs role (arguments pairs) = .ok pairs := by
  rw [arguments, strictPairs_map_argument role h, OrderedMap.ofList_entries]

/-- The arguments of a map all hold an `=`, which `set` does not. -/
theorem ne_setWord_of_mem_arguments {pairs : OrderedMap String} {s : String}
    (h : s ∈ arguments pairs) : s ≠ setWord := by
  obtain ⟨pair, -, rfl⟩ := List.mem_map.mp h
  intro hset
  have hmem : '=' ∈ (argument pair).toList := by
    simp [argument, String.toList_append]
  rw [hset] at hmem
  revert hmem
  decide

theorem isEmpty_arguments (pairs : OrderedMap String) :
    (arguments pairs).isEmpty = pairs.isEmpty := by
  rw [arguments, List.isEmpty_map, OrderedMap.isEmpty]

/-! ## Lists of values -/

/-- Values without commas are got back, trimmed, from their list. -/
theorem listValues_intercalate {values : List String} (hne : values ≠ [])
    (h : ∀ value ∈ values, ',' ∉ value.toList) :
    listValues (",".intercalate values) = values.map trim := by
  have hpieces : pieces ',' ([','].intercalate (values.map String.toList))
      = values.map String.toList := by
    refine pieces_intercalate (by simpa using hne) ?_
    intro cs hcs
    obtain ⟨value, hvalue, rfl⟩ := List.mem_map.mp hcs
    exact h value hvalue
  rw [listValues, String.toList_intercalate, show ",".toList = [','] from rfl, hpieces,
    List.map_map]
  rfl

/-- Lists of one length pass the check, which gives that length. -/
theorem checkLengths_eq_ok {lists : List (String × List String)} {n : ℕ} (hne : lists ≠ [])
    (h : ∀ entry ∈ lists, entry.2.length = n) : checkLengths lists = .ok n := by
  cases lists with
  | nil => exact absurd rfl hne
  | cons first rest =>
    obtain ⟨name, values⟩ := first
    have hfirst : values.length = n := h (name, values) List.mem_cons_self
    have hnone : rest.find? (fun entry => entry.2.length ≠ values.length) = none := by
      rw [List.find?_eq_none]
      intro entry hentry
      simp [hfirst, h entry (List.mem_cons_of_mem _ hentry)]
    rw [checkLengths, hnone, hfirst]

/-! ## The readers on arguments of maps -/

theorem readAdd_arguments {values : OrderedMap String} (h : KeysFit values)
    (hne : values.isEmpty = false) : readAdd (arguments values) = .ok (add values) := by
  rw [readAdd, loosePairs_arguments h]
  simp only [hne, Bool.false_eq_true, if_false]

/-- The arguments are parted at the `set` between the maps, which no argument of a map is. -/
theorem readUpdate_arguments {conditions assignments : OrderedMap String}
    (h : KeysFit conditions) (h' : KeysFit assignments) (hne : conditions.isEmpty = false)
    (hne' : assignments.isEmpty = false) :
    readUpdate (arguments conditions ++ setWord :: arguments assignments)
      = .ok (update conditions assignments) := by
  have hbefore : ∀ s ∈ arguments conditions, decide (s ≠ setWord) = true :=
    fun s hs => decide_eq_true (ne_setWord_of_mem_arguments hs)
  rw [readUpdate, List.takeWhile_append_of_pos hbefore, List.dropWhile_append_of_pos hbefore,
    List.takeWhile_cons_of_neg (by simp), List.dropWhile_cons_of_neg (by simp), List.append_nil]
  simp only [isEmpty_arguments, hne, hne', Bool.false_eq_true, if_false,
    strictPairs_arguments _ h, strictPairs_arguments _ h']
  rfl

/-- Where no condition spells the confirmation, the deletion is confirmed by the argument behind
the conditions alone. -/
theorem readDelete_arguments {conditions : OrderedMap String} (confirmed : Bool)
    (h : KeysFit conditions) (hne : conditions.isEmpty = false)
    (hno : ∀ s ∈ arguments conditions, isDeleteConfirmation s = false) :
    readDelete (arguments conditions ++ (if confirmed then [deleteConfirmation] else []))
      = .ok (delete conditions confirmed) := by
  have hyes : isDeleteConfirmation deleteConfirmation = true := by decide
  have hkept : (arguments conditions).filter (fun argument => !isDeleteConfirmation argument)
      = arguments conditions := by
    rw [List.filter_eq_self]
    intro s hs
    rw [hno s hs]
    rfl
  have hany : (arguments conditions).any isDeleteConfirmation = false := by
    rw [List.any_eq_false]
    intro s hs
    rw [hno s hs]
    exact Bool.false_ne_true
  have hfilter : (arguments conditions ++ (if confirmed then [deleteConfirmation] else [])).filter
      (fun argument => !isDeleteConfirmation argument) = arguments conditions := by
    rw [List.filter_append, hkept]
    cases confirmed <;> simp [hyes]
  have hconfirmed : (arguments conditions ++ (if confirmed then [deleteConfirmation] else [])).any
      isDeleteConfirmation = confirmed := by
    rw [List.any_append, hany]
    cases confirmed <;> simp [hyes]
  have hargs : (arguments conditions).isEmpty = false := by rw [isEmpty_arguments, hne]
  have hall : (arguments conditions ++ (if confirmed then [deleteConfirmation] else [])).isEmpty
      = false := by
    rw [List.isEmpty_eq_false_iff] at hargs ⊢
    exact List.append_ne_nil_of_left_ne_nil hargs _
  simp only [readDelete, hfilter, hconfirmed, strictPairs_arguments _ h, hall, hargs,
    Bool.false_eq_true, if_false]
  rfl

end Command
end TableShell
