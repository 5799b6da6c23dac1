import Mathlib.Data.List.Induction
import Mathlib.Tactic.Common
import TableShell.OrderedMap

/-!
# What writing pairs leaves in a map

`ofList pairs` is the map after the pairs were written one by one. Its entries are the pairs that
no later pair overrides (`mem_entries_ofList`); where the keys are distinct, they are all the pairs
in order (`entries_ofList`). The keys stand where they came first (`keys_ofList`), with the values
that came last (`get?_ofList`).
-/

namespace TableShell
namespace OrderedMap

variable {α β : Type}

/-! ## Writing one pair -/

/-- A new key is written behind all others. -/
theorem insertEntry_of_not_mem {key : String} {value : α} {xs : List (String × α)}
    (h : key ∉ xs.map Prod.fst) : insertEntry key value xs = xs ++ [(key, value)] := by
  induction xs with
  | nil => rfl
  | cons x xs ih =>
    rw [List.map_cons, List.mem_cons, not_or] at h
    rw [insertEntry, if_neg (Ne.symm h.1), ih h.2, List.cons_append]

/-- After a pair is written, the entries are that pair and the entries of the other keys. -/
theorem mem_insertEntry {key : String} {value : α} {xs : List (String × α)}
    (hnodup : (xs.map Prod.fst).Nodup) {entry : String × α} :
    entry ∈ insertEntry key value xs ↔ entry = (key, value) ∨ entry ∈ xs ∧ entry.1 ≠ key := by
  induction xs with
  | nil => simp [insertEntry]
  | cons x xs ih =>
    rw [List.map_cons, List.nodup_cons] at hnodup
    by_cases hx : x.1 = key
    · have hrest : entry ∈ xs → entry.1 ≠ key := fun hmem hkey =>
        hnodup.1 (by rw [hx, ← hkey]; exact List.mem_map_of_mem hmem)
      rw [insertEntry, if_pos hx, List.mem_cons, List.mem_cons]
      constructor
      · rintro (h | h)
        · exact Or.inl h
        · exact Or.inr ⟨Or.inr h, hrest h⟩
      · rintro (h | ⟨rfl | h, hkey⟩)
        · exact Or.inl h
        · exact absurd hx hkey
        · exact Or.inr h
    · rw [insertEntry, if_neg hx, List.mem_cons, List.mem_cons, ih hnodup.2]
      constructor
      · rintro (rfl | h | ⟨h, hkey⟩)
        · exact Or.inr ⟨Or.inl rfl, hx⟩
        · exact Or.inl h
        · exact Or.inr ⟨Or.inr h, hkey⟩
      · rintro (h | ⟨rfl | h, hkey⟩)
        · exact Or.inr (Or.inl h)
        · exact Or.inl rfl
        · exact Or.inr (Or.inr ⟨h, hkey⟩)

/-- A pair that is written is found as if it came before all others. -/
theorem lookup_insertEntry (key other : String) (value : α) (xs : List (String × α)) :
    (insertEntry key value xs).lookup other = ((key, value) :: xs).lookup other := by
  induction xs with
  | nil => rfl
  | cons x xs ih =>
    by_cases hx : x.1 = key
    · subst hx
      rw [insertEntry, if_pos rfl, List.lookup_cons, List.lookup_cons, List.lookup_cons]
      cases other == x.1 <;> rfl
    · rw [insertEntry, if_neg hx, List.lookup_cons, ih, List.lookup_cons, List.lookup_cons,
        List.lookup_cons]
      by_cases hother : other = x.1
      · have hkey : (other == key) = false := by
          rw [hother]
          exact beq_false_of_ne hx
        rw [hkey]
      · rw [beq_false_of_ne hother]

theorem insertEntry_ne_nil (key : String) (value : α) (xs : List (String × α)) :
    insertEntry key value xs ≠ [] := by
  cases xs with
  | nil => exact List.cons_ne_nil _ _
  | cons x xs =>
    rw [insertEntry]
    split <;> exact List.cons_ne_nil _ _

/-- Mapping the values commutes with writing a pair. -/
theorem map_insertEntry (f : α → β) (key : String) (value : α) (xs : List (String × α)) :
    (insertEntry key value xs).map (fun entry => (entry.1, f entry.2))
      = insertEntry key (f value) (xs.map fun entry => (entry.1, f entry.2)) := by
  induction xs with
  | nil => rfl
  | cons x xs ih =>
    by_cases hx : x.1 = key
    · simp only [insertEntry, if_pos hx, List.map_cons]
    · simp only [insertEntry, if_neg hx, List.map_cons, ih]

/-! ## Writing pairs one by one -/

@[simp] theorem ofList_nil : (ofList [] : OrderedMap α) = empty := rfl

/-- The last pair is written to the map of those before it. -/
theorem ofList_concat (pairs : List (String × α)) (pair : String × α) :
    ofList (pairs ++ [pair]) = (ofList pairs).insert pair.1 pair.2 := by
  simp only [ofList, insertAll, List.foldl_append, List.foldl_cons, List.foldl_nil]

/-- Pairs with distinct keys stand in the map as they were written. -/
theorem entries_ofList {pairs : List (String × α)} (h : (pairs.map Prod.fst).Nodup) :
    (ofList pairs).entries = pairs := by
  induction pairs using List.reverseRecOn with
  | nil => rfl
  | append_singleton pairs pair ih =>
    rw [List.map_append, List.nodup_append] at h
    have hnew : pair.1 ∉ pairs.map Prod.fst := fun hmem =>
      h.2.2 pair.1 hmem pair.1 (by simp) rfl
    rw [ofList_concat, entries_insert, ih h.1, insertEntry_of_not_mem hnew]

/-- Written to an empty map, the entries of a map give that map. -/
theorem ofList_entries (m : OrderedMap α) : ofList m.entries = m :=
  OrderedMap.ext (entries_ofList m.nodup_keys)

/-- The entries are the pairs that no later pair overrides. -/
theorem mem_entries_ofList {pairs : List (String × α)} {entry : String × α} :
    entry ∈ (ofList pairs).entries ↔
      ∃ before after, pairs = before ++ entry :: after ∧ entry.1 ∉ after.map Prod.fst := by
  induction pairs using List.reverseRecOn with
  | nil => simp [empty]
  | append_singleton pairs pair ih =>
    rw [ofList_concat, entries_insert, mem_insertEntry (ofList pairs).nodup_keys, ih]
    constructor
    · rintro (rfl | ⟨⟨before, after, rfl, hafter⟩, hkey⟩)
      · exact ⟨pairs, [], rfl, by simp⟩
      · refine ⟨before, after ++ [pair], by simp, ?_⟩
        rw [List.map_append, List.mem_append, not_or]
        exact ⟨hafter, by simpa using hkey⟩
    · rintro ⟨before, after, hpairs, hafter⟩
      -- the entry is the last pair, or stands before it
      rcases List.eq_nil_or_concat after with rfl | ⟨after, last, rfl⟩
      · obtain ⟨rfl, hlast⟩ := List.append_inj' hpairs rfl
        cases hlast
        exact Or.inl rfl
      · rw [List.concat_eq_append, List.map_append, List.mem_append, not_or] at hafter
        rw [List.concat_eq_append, ← List.cons_append, ← List.append_assoc] at hpairs
        obtain ⟨rfl, hlast⟩ := List.append_inj' hpairs rfl
        cases hlast
        exact Or.inr ⟨⟨before, after, rfl, hafter.1⟩, by simpa using hafter.2⟩

/-- The keys stand where they came first. -/
theorem keys_ofList (pairs : List (String × α)) :
    (ofList pairs).keys = (pairs.map Prod.fst).eraseDups := by
  induction pairs using List.reverseRecOn with
  | nil => rfl
  | append_singleton pairs pair ih =>
    have hmem : pair.1 ∈ (ofList pairs).entries.map Prod.fst ↔ pair.1 ∈ pairs.map Prod.fst := by
      rw [← keys, ih, List.mem_eraseDups]
    rw [ofList_concat, keys, entries_insert, map_fst_insertEntry, List.map_append,
      List.eraseDups_append, ← ih, List.map_singleton]
    by_cases hold : pair.1 ∈ pairs.map Prod.fst
    · rw [if_pos (hmem.mpr hold)]
      simp [List.removeAll, hold, keys]
    · rw [if_neg (mt hmem.mp hold)]
      simp [List.removeAll, hold, keys, List.eraseDups_cons]

/-- A key has the value that came last. -/
theorem get?_ofList (pairs : List (String × α)) (key : String) :
    (ofList pairs).get? key = pairs.reverse.lookup key := by
  induction pairs using List.reverseRecOn with
  | nil => rfl
  | append_singleton pairs pair ih =>
    rw [ofList_concat, get?, entries_insert, lookup_insertEntry, List.lookup_cons,
      List.reverse_concat, List.lookup_cons, ← ih, get?]

/-- Only the empty list of pairs leaves the map empty. -/
theorem isEmpty_ofList (pairs : List (String × α)) : (ofList pairs).isEmpty = pairs.isEmpty := by
  cases pairs using List.reverseRecOn with
  | nil => rfl
  | append_singleton pairs pair =>
    rw [ofList_concat, isEmpty, entries_insert,
      List.isEmpty_eq_false_iff.mpr (insertEntry_ne_nil _ _ _),
      List.isEmpty_eq_false_iff.mpr (by simp)]

/-- The values may be mapped before or after they are written. -/
theorem map_ofList (f : α → β) (pairs : List (String × α)) :
    (ofList pairs).map f = ofList (pairs.map fun pair => (pair.1, f pair.2)) := by
  induction pairs using List.reverseRecOn with
  | nil => rfl
  | append_singleton pairs pair ih =>
    rw [List.map_append, List.map_singleton, ofList_concat, ofList_concat, ← ih]
    apply OrderedMap.ext
    exact map_insertEntry f pair.1 pair.2 (ofList pairs).entries

/-- Each entry holds the value of its key. -/
theorem get?_of_mem {m : OrderedMap α} {entry : String × α} (h : entry ∈ m.entries) :
    m.get? entry.1 = some entry.2 := by
  obtain ⟨before, after, hentries⟩ := List.append_of_mem h
  have hnodup := m.nodup_keys
  rw [hentries, List.map_append, List.nodup_append] at hnodup
  rw [get?, List.lookup_eq_some_iff]
  refine ⟨before, after, hentries, fun other hother => ?_⟩
  -- the key does not occur before the entry
  rw [bne_iff_ne]
  exact (hnodup.2.2 other.1 (List.mem_map_of_mem hother) entry.1 (by simp)).symm

theorem not_mem_keys_of_get? {m : OrderedMap α} {key : String} (h : m.get? key = none) :
    key ∉ m.entries.map Prod.fst := by
  intro hmem
  obtain ⟨entry, hentry, rfl⟩ := List.mem_map.mp hmem
  rw [get?_of_mem hentry] at h
  cases h

@[simp] theorem keys_map (f : α → β) (m : OrderedMap α) : (m.map f).keys = m.keys := by
  rw [keys, entries_map, List.map_map]
  rfl

/-- A key has the image of its value. -/
theorem get?_map (f : α → β) (m : OrderedMap α) (key : String) :
    (m.map f).get? key = (m.get? key).map f := by
  rw [get?, get?, entries_map]
  induction m.entries with
  | nil => rfl
  | cons entry entries ih =>
    rw [List.map_cons, List.lookup_cons, List.lookup_cons]
    split
    · rfl
    · exact ih

end OrderedMap
end TableShell
