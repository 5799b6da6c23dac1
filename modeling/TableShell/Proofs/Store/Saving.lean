import Mathlib.Tactic.Common
import TableShell.Proofs.Except.Traversal
import TableShell.Proofs.Text.Cutting
import TableShell.Store

/-!
# Writing one file

Writing to a location either puts the content there, so that it stands there afterwards
(`entry_write`), or fails; and then no file stood at the location, and none stands there now,
though directories may have been made on the way (`entry_of_write_error`). The reason is that a
file that can be looked up can also be written: the directories on the way are there.
-/

namespace TableShell

namespace FileTree

variable {tree : FileTree}

/-! ## Walking -/

theorem walk_concat (tree : FileTree) (names : List String) (name : String) :
    tree.walk (names ++ [name]) = tree.walk names >>= fun p => tree.enter p name := by
  unfold walk
  rw [List.foldlM_append]
  congr 1
  funext p
  exact List.foldlM_cons.trans (bind_pure _)

/-- A name that stays is walked without a step. -/
theorem enter_of_stays {name : String} (h : Path.stays name = true) (p : Path) :
    tree.enter p name = .ok p := by
  have hchild : tree.child p name = .ok .directory := by
    unfold child Path.namesDirectory
    rw [h]
    rfl
  unfold enter Path.step
  rw [hchild, h]
  rfl

theorem walk_filter_stays (tree : FileTree) (names : List String) :
    tree.walk (names.filter fun name => !Path.stays name) = tree.walk names := by
  unfold walk
  generalize ([] : Path) = p
  induction names generalizing p with
  | nil => rfl
  | cons name names ih =>
    cases hstays : Path.stays name with
    | true =>
      rw [List.filter_cons_of_neg (by simp [hstays]), List.foldlM_cons, enter_of_stays hstays]
      exact ih p
    | false =>
      rw [List.filter_cons_of_pos (by simp [hstays]), List.foldlM_cons, List.foldlM_cons]
      congr 1
      funext q
      exact ih q

/-- What is entered is a directory. -/
theorem child_of_enter {p q : Path} {name : String} (h : tree.enter p name = .ok q) :
    tree.child p name = .ok .directory ∧ q = p.step name := by
  unfold enter at h
  split at h
  · rename_i hchild
    cases h
    exact ⟨hchild, rfl⟩
  · cases h
  · cases h

/-! ## Making directories -/

/-- A directory that is there is not made again. -/
theorem makeDirectory_of_walk {names : List String} {p : Path} (h : tree.walk names = .ok p) :
    tree.makeDirectory names = .ok tree := by
  rcases List.eq_nil_or_concat names with rfl | ⟨outer, name, rfl⟩
  · rfl
  · rw [List.concat_eq_append] at h ⊢
    rw [walk_concat] at h
    obtain ⟨around, houter, henter⟩ := Traversal.bind_eq_ok_iff.mp h
    unfold makeDirectory
    rw [List.dropLast_concat, List.getLastD_concat, houter]
    simp only [bind, Except.bind, (child_of_enter henter).1]

theorem makeDirectories_of_walk {names : List String} {p : Path}
    (h : tree.walk names.reverse = .ok p) : tree.makeDirectories names = (tree, none) := by
  cases names with
  | nil => rfl
  | cons name outer =>
    unfold makeDirectories
    simp only [makeDirectory_of_walk h]

/-- Where the directories could not all be made, they cannot be walked. -/
theorem walk_of_makeDirectories_error {names : List String} {made : FileTree} {e : FileError}
    (h : tree.makeDirectories names = (made, some e)) (p : Path) :
    made.walk names.reverse ≠ .ok p := by
  induction names generalizing made e p with
  | nil => cases h
  | cons name outer ih =>
    have hmakes : ∀ {tree : FileTree}, tree.walk (name :: outer).reverse = .ok p →
        ∀ {e}, tree.makeDirectory (name :: outer).reverse ≠ .error e := by
      intro tree hwalk e herror
      rw [makeDirectory_of_walk hwalk] at herror
      cases herror
    intro hwalk
    unfold makeDirectories at h
    simp only at h
    split at h
    · cases h
    · split at h
      · -- an outer directory could not be made
        rename_i houter
        cases h
        rw [List.reverse_cons, walk_concat] at hwalk
        obtain ⟨around, haround, -⟩ := Traversal.bind_eq_ok_iff.mp hwalk
        exact ih houter around haround
      · split at h
        · cases h
        · rename_i herror
          cases h
          exact hmakes hwalk herror
    · rename_i herror
      cases h
      exact hmakes hwalk herror

/-! ## Locations of files -/

/-- Something is looked up at a location under its last name, in the directory of the others. -/
theorem entry_eq_ok_iff {location : String} {there : FileEntry} :
    tree.entry location = .ok there ↔
      location ≠ "" ∧ Path.hasZeroByte location = false ∧
        location.utf8ByteSize ≤ Path.longestLocation ∧
        ∃ directory, tree.walk (Path.names location).dropLast = .ok directory ∧
          tree.child directory ((Path.names location).getLastD "") = .ok there := by
  unfold entry
  simp only
  by_cases hempty : location = ""
  · simp [hempty]
  · cases hzero : Path.hasZeroByte location with
    | true => simp [hempty]
    | false =>
      by_cases hlong : Path.longestLocation < location.utf8ByteSize
      · have hnot : ¬ location.utf8ByteSize ≤ Path.longestLocation := by omega
        simp [hempty, hlong, hnot]
      · have hle : location.utf8ByteSize ≤ Path.longestLocation := by omega
        rw [if_neg hempty, if_neg Bool.false_ne_true, if_neg hlong, Traversal.bind_eq_ok_iff]
        simp [hempty, hle]

/-- A file has a name. -/
theorem namesDirectory_of_child {directory : Path} {name : String} {content : FileContent}
    (h : tree.child directory name = .ok (.file content)) : Path.namesDirectory name = false := by
  unfold child at h
  split at h
  · cases h
  · rename_i hname
    exact Bool.eq_false_iff.mpr hname

/-- The directory around a file is walked like the names before its own. -/
theorem walk_around {location : String}
    (h : Path.namesDirectory ((Path.names location).getLastD "") = false) :
    tree.walk (Path.around location) = tree.walk (Path.names location).dropLast := by
  unfold Path.around
  rcases List.eq_nil_or_concat (Path.names location) with hnil | ⟨outer, name, hnames⟩
  · rw [hnil] at h
    exact absurd h (by decide)
  · rw [List.concat_eq_append] at hnames
    rw [hnames] at h ⊢
    rw [List.getLastD_concat, Path.namesDirectory, Bool.or_eq_false_iff] at h
    rw [List.filter_append, List.filter_cons_of_pos (by simp [h.1]), List.filter_nil,
      List.dropLast_concat, List.dropLast_concat, walk_filter_stays]

/-- Slashes stand behind no name of a file. -/
theorem dropTrailing_eq {names : List String}
    (h : Path.namesDirectory (names.getLastD "") = false) :
    (names.reverse.dropWhile (· = "")).reverse = names := by
  rcases List.eq_nil_or_concat names with rfl | ⟨outer, name, rfl⟩
  · rfl
  · rw [List.concat_eq_append, List.getLastD_concat] at h
    have hname : name ≠ "" := by
      rintro rfl
      exact absurd h (by decide)
    rw [List.concat_eq_append, List.reverse_append, List.reverse_singleton,
      List.singleton_append, List.dropWhile_cons_of_neg (by simp [hname]), List.reverse_cons,
      List.reverse_reverse]

/-- Where a file stands, one may be put. -/
theorem target_of_entry {location : String} {content : FileContent}
    (h : tree.entry location = .ok (.file content)) : ∃ path, tree.target location = .ok path := by
  obtain ⟨hempty, hzero, hlong, directory, hwalk, hchild⟩ := entry_eq_ok_iff.mp h
  have hname := namesDirectory_of_child hchild
  refine ⟨directory ++ [(Path.names location).getLastD ""], ?_⟩
  have hlong' : ¬ Path.longestLocation < location.utf8ByteSize := by omega
  unfold target
  simp only [dropTrailing_eq hname, hempty, hzero, hlong', hwalk, hname, hchild, if_false,
    Bool.false_eq_true, ne_eq, not_true_eq_false, bind, Except.bind, pure, Except.pure]

/-- Under a name that is none of a directory, and not too long, stands what its path leads to. -/
theorem child_eq_entryAt {name : String} (hname : Path.namesDirectory name = false)
    (hshort : name.utf8ByteSize ≤ Path.longestName) (directory : Path) :
    tree.child directory name = tree.entryAt (directory ++ [name]) := by
  have hlong : ¬ Path.longestName < name.utf8ByteSize := by omega
  unfold child
  rw [if_neg (by rw [hname]; exact Bool.false_ne_true), if_neg hlong]

/-- All that is known of a location where a file may be put. -/
theorem target_eq_ok {location : String} {path : Path} (h : tree.target location = .ok path) :
    location ≠ "" ∧ Path.hasZeroByte location = false ∧
      location.utf8ByteSize ≤ Path.longestLocation ∧
      ∃ directory, tree.walk (Path.names location).dropLast = .ok directory ∧
        path = directory ++ [(Path.names location).getLastD ""] ∧
        Path.namesDirectory ((Path.names location).getLastD "") = false ∧
        ((Path.names location).getLastD "").utf8ByteSize ≤ Path.longestName ∧
        tree.entryAt path ≠ .ok .directory := by
  unfold target at h
  dsimp only at h
  obtain ⟨hempty, h⟩ := Traversal.unless_eq_ok_iff.mp h
  obtain ⟨hzero, h⟩ := Traversal.unless_eq_ok_iff.mp h
  obtain ⟨hlong, h⟩ := Traversal.unless_eq_ok_iff.mp h
  obtain ⟨directory, hwalk, h⟩ := Traversal.bind_eq_ok_iff.mp h
  obtain ⟨hname, h⟩ := Traversal.unless_eq_ok_iff.mp h
  split at h
  · cases h
  · rename_i there hfits
    obtain ⟨hkept, h⟩ := Traversal.unless_eq_ok_iff.mp h
    rw [not_not] at hkept
    rw [hkept] at hwalk hname hfits h
    split at h
    · cases h
    · rename_i hnot
      cases h
      have hname' := Bool.eq_false_iff.mpr hname
      have hshort : ((Path.names location).getLastD "").utf8ByteSize ≤ Path.longestName := by
        by_contra hlong
        apply hfits
        unfold child
        rw [if_neg hname, if_pos (Nat.lt_of_not_le hlong)]
      refine ⟨hempty, Bool.eq_false_iff.mpr hzero, Nat.le_of_not_lt hlong, directory, hwalk, rfl,
        hname', hshort, ?_⟩
      rw [← child_eq_entryAt hname' hshort]
      exact hnot

/-! ## The file that was put -/

theorem content?_put_self (tree : FileTree) (path : Path) (content : FileContent) :
    (tree.put path content).content? path = some content := by
  unfold content? put
  rw [List.lookup_append]
  have hnone : (tree.files.filter fun entry => entry.1 != path).lookup path = none := by
    rw [List.lookup_eq_none_iff]
    intro entry hentry
    have hne := (List.mem_filter.mp hentry).2
    rw [bne_comm]
    exact hne
  rw [hnone]
  simp

theorem content?_put_of_ne {path other : Path} (h : other ≠ path) (content : FileContent) :
    (tree.put path content).content? other = tree.content? other := by
  unfold content? put
  rw [List.lookup_append]
  have hlast : [(path, content)].lookup other = none := by
    rw [List.lookup_cons, beq_eq_false_iff_ne.mpr h]
    rfl
  rw [hlast, Option.or_none]
  induction tree.files with
  | nil => rfl
  | cons entry files ih =>
    by_cases hentry : entry.1 = path
    · have hother : (other == entry.1) = false := by
        rw [hentry, beq_eq_false_iff_ne]
        exact h
      rw [List.filter_cons_of_neg (by simp [hentry]), ih, List.lookup_cons, hother]
    · rw [List.filter_cons_of_pos (by simp [hentry]), List.lookup_cons, List.lookup_cons, ih]

/-- A directory remains one. -/
theorem isDirectory_put {other : Path} (h : tree.isDirectory other = true) (path : Path)
    (content : FileContent) : (tree.put path content).isDirectory other = true := by
  unfold isDirectory at *
  rw [Bool.or_eq_true, List.any_eq_true] at *
  rcases h with hempty | ⟨p, hp, hprefix⟩
  · exact Or.inl hempty
  · refine Or.inr ⟨p, ?_, hprefix⟩
    unfold put
    rcases List.mem_append.mp hp with hdirectory | hfile
    · exact List.mem_append_left _ hdirectory
    · obtain ⟨entry, hentry, rfl⟩ := List.mem_map.mp hfile
      apply List.mem_append_right
      rw [List.map_append, List.mem_append]
      by_cases hpath : entry.1 = path
      · right
        simp [hpath]
      · left
        exact List.mem_map_of_mem (List.mem_filter.mpr ⟨hentry, by simp [hpath]⟩)

/-- A step that could be made still can, as no directory stands where the file is put. -/
theorem enter_put {path : Path} (hpath : tree.entryAt path ≠ .ok .directory)
    (content : FileContent) {p q : Path} {name : String} (h : tree.enter p name = .ok q) :
    (tree.put path content).enter p name = .ok q := by
  obtain ⟨hchild, rfl⟩ := child_of_enter h
  have hchild' : (tree.put path content).child p name = .ok .directory := by
    unfold child at hchild ⊢
    split
    · rfl
    · rename_i hname
      rw [if_neg hname] at hchild
      split
      · rename_i hlong
        rw [if_pos hlong] at hchild
        cases hchild
      · rename_i hshort
        rw [if_neg hshort] at hchild
        have hne : p ++ [name] ≠ path := by
          rintro rfl
          exact hpath hchild
        unfold entryAt at hchild ⊢
        rw [content?_put_of_ne hne]
        split at hchild
        · cases hchild
        · rename_i hnone
          split at hchild
          · rename_i hdirectory
            simp only [isDirectory_put hdirectory path content, if_true]
          · cases hchild
  unfold enter
  rw [hchild']

theorem walk_put {path : Path} (hpath : tree.entryAt path ≠ .ok .directory)
    (content : FileContent) {names : List String} {q : Path} (h : tree.walk names = .ok q) :
    (tree.put path content).walk names = .ok q := by
  unfold walk at *
  generalize ([] : Path) = p at h ⊢
  induction names generalizing p with
  | nil => exact h
  | cons name names ih =>
    rw [List.foldlM_cons] at h ⊢
    obtain ⟨next, hnext, hrest⟩ := Traversal.bind_eq_ok_iff.mp h
    rw [enter_put hpath content hnext]
    exact ih next hrest

/-! ## Writing -/

/-- What was written stands at the location. -/
theorem entry_write {location : String} {content : FileContent} {written : FileTree}
    (h : tree.write location content = (written, none)) :
    written.entry location = .ok (.file content) := by
  unfold write at h
  simp only at h
  split at h
  · cases h
  · split at h
    · cases h
    · rename_i made _
      split at h
      · rename_i path htarget
        cases h
        obtain ⟨hempty, hzero, hlong, directory, hwalk, rfl, hname, hshort, hnot⟩ :=
          target_eq_ok htarget
        rw [entry_eq_ok_iff]
        refine ⟨hempty, hzero, hlong, directory, walk_put hnot content hwalk, ?_⟩
        rw [child_eq_entryAt hname hshort, entryAt, content?_put_self]
      · cases h

/-- A zero byte in a name is one in the location. -/
theorem hasZeroByte_of_around {location : String}
    (h : (Path.around location).any Path.hasZeroByte = true) :
    Path.hasZeroByte location = true := by
  obtain ⟨name, hname, hzero⟩ := List.any_eq_true.mp h
  have hmem := (List.mem_filter.mp (List.dropLast_subset _ hname)).1
  obtain ⟨piece, hpiece, rfl⟩ := List.mem_map.mp hmem
  unfold Path.hasZeroByte at *
  rw [List.contains_iff_mem, String.toList_ofList] at hzero
  rw [List.contains_iff_mem]
  exact Text.mem_of_mem_pieces hpiece hzero

/-- Where a file can be looked up, the directories on the way to it are there, and it can be
written over. -/
theorem write_of_entry {location : String} {there : FileContent}
    (h : tree.entry location = .ok (.file there)) (content : FileContent) :
    ∃ path, tree.write location content = (tree.put path content, none) := by
  obtain ⟨path, htarget⟩ := target_of_entry h
  obtain ⟨-, hzero, -, directory, hwalk, hchild⟩ := entry_eq_ok_iff.mp h
  have haround : tree.walk (Path.around location) = .ok directory := by
    rw [walk_around (namesDirectory_of_child hchild), hwalk]
  have hmade : tree.makeDirectories (Path.around location).reverse = (tree, none) := by
    apply makeDirectories_of_walk
    rw [List.reverse_reverse]
    exact haround
  have hnames : (Path.around location).any Path.hasZeroByte = false := by
    rw [Bool.eq_false_iff]
    intro hany
    rw [hasZeroByte_of_around hany] at hzero
    cases hzero
  refine ⟨path, ?_⟩
  unfold write
  simp only [hnames, Bool.false_eq_true, if_false, hmade, htarget]

/-- Where writing fails, there was no file at the location, and there is none. -/
theorem entry_of_write_error {location : String} {content : FileContent} {left : FileTree}
    {e : FileError} (h : tree.write location content = (left, some e)) (there : FileContent) :
    tree.entry location ≠ .ok (.file there) ∧ left.entry location ≠ .ok (.file there) := by
  constructor
  · intro hentry
    obtain ⟨path, hwrite⟩ := write_of_entry hentry content
    rw [h] at hwrite
    cases hwrite
  · intro hentry
    obtain ⟨path, htarget⟩ := target_of_entry hentry
    obtain ⟨-, hzero, -, directory, hwalk, hchild⟩ := entry_eq_ok_iff.mp hentry
    unfold write at h
    simp only at h
    split at h
    · rename_i hany
      rw [hasZeroByte_of_around hany] at hzero
      cases hzero
    · split at h
      · -- a directory could not be made, so the file cannot be looked up
        rename_i hmade
        cases h
        apply walk_of_makeDirectories_error hmade directory
        rw [List.reverse_reverse, walk_around (namesDirectory_of_child hchild), hwalk]
      · split at h
        · cases h
        · rename_i herror
          cases h
          rw [herror] at htarget
          cases htarget

end FileTree

namespace Store

/-! ## Saving -/

/-- What the store holds once the table is saved in it. -/
def holding (store : Store) (t : Table) : Contents :=
  match store with
  | memory _ => .table t
  | file _ delimiter _ => .file (some (.text (Delimited.write delimiter t)))

/-- A table that was saved is what the store holds. -/
theorem contents_save {store after : Store} {t : Table} (h : store.save t = (after, none)) :
    after.contents = store.holding t := by
  cases store with
  | memory _ =>
    cases h
    rfl
  | file location delimiter tree =>
    unfold save at h
    cases hwrite : tree.write location (.text (Delimited.write delimiter t)) with
    | mk written error =>
      simp only [hwrite] at h
      cases error with
      | some e => cases h
      | none =>
        cases h
        simp only [contents, holding, FileTree.entry_write hwrite]

/-- Where saving fails, the store holds what it held. -/
theorem contents_save_error {store after : Store} {t : Table} {e : StoreError}
    (h : store.save t = (after, some e)) : after.contents = store.contents := by
  cases store with
  | memory _ => cases h
  | file location delimiter tree =>
    unfold save at h
    cases hwrite : tree.write location (.text (Delimited.write delimiter t)) with
    | mk left error =>
      simp only [hwrite] at h
      cases error with
      | none => cases h
      | some e =>
        cases h
        have hnone : ∀ {tree : FileTree}, (∀ there, tree.entry location ≠ .ok (.file there)) →
            (file location delimiter tree).contents = .file none := by
          intro tree hnot
          simp only [contents]
        rw [hnone fun there => (FileTree.entry_of_write_error hwrite there).1,
          hnone fun there => (FileTree.entry_of_write_error hwrite there).2]

end Store
end TableShell
