import FactoryOverloads.FileTree.Staging

/-!
# The entries of a changed tree

What lies where after an entry has been set or erased (`entryAt?_set`,
`entryAt?_erase`): another entry at the one location, and everywhere else what lay
there before. Setting a file where no directory lies leaves the directories of a
tree as they are (`isDirectoryAt_set_file`).

The name of a temporary file is new (`temporaryName_notMem`), so that removing
the file gives back the tree it was put into, entry by entry and in the same
order (`erase_set_of_fresh`).
-/

namespace FactoryOverloads.FileTree

variable {tree : FileTree} {location other : Location} {entry : Entry}

/-! ## Setting and erasing -/

theorem lookup_cons_ite (other place : Location) (entry : Entry)
    (entries : List (Location × Entry)) :
    ((place, entry) :: entries).lookup other =
      if other = place then some entry else entries.lookup other := by
  rw [List.lookup_cons]
  by_cases h : other = place
  · rw [if_pos h, beq_iff_eq.mpr h]
  · rw [if_neg h, beq_eq_false_iff_ne.mpr h]

theorem lookup_setIn (location other : Location) (entry : Entry)
    (entries : List (Location × Entry)) :
    (setIn location entry entries).lookup other =
      if other = location then some entry else entries.lookup other := by
  induction entries with
  | nil => exact lookup_cons_ite other location entry []
  | cons head rest ih =>
    obtain ⟨place, content⟩ := head
    by_cases found : place = location
    · rw [setIn, if_pos found, lookup_cons_ite, lookup_cons_ite, found]
      split <;> rfl
    · rw [setIn, if_neg found, lookup_cons_ite, lookup_cons_ite, ih]
      by_cases here : other = place
      · rw [if_pos here, here, if_neg found, if_pos rfl]
      · rw [if_neg here, if_neg here]

theorem lookup_filter_ne (location other : Location) (entries : List (Location × Entry)) :
    (entries.filter fun entry => entry.1 ≠ location).lookup other =
      if other = location then none else entries.lookup other := by
  induction entries with
  | nil => simp
  | cons head rest ih =>
    obtain ⟨place, content⟩ := head
    by_cases found : place = location
    · rw [List.filter_cons_of_neg (by simpa using found), ih, lookup_cons_ite, found]
      split <;> rfl
    · rw [List.filter_cons_of_pos (by simpa using found), lookup_cons_ite, lookup_cons_ite, ih]
      by_cases here : other = place
      · rw [if_pos here, here, if_neg found, if_pos rfl]
      · rw [if_neg here, if_neg here]

/-- Nothing is set at the root, which is a directory in every tree. -/
theorem entryAt?_set (h : location ≠ []) (other : Location) :
    (tree.set location entry).entryAt? other =
      if other = location then some entry else tree.entryAt? other := by
  cases other with
  | nil => rw [if_neg (Ne.symm h)]; rfl
  | cons name names => exact lookup_setIn location (name :: names) entry tree.entries

theorem entryAt?_erase (h : location ≠ []) (other : Location) :
    (tree.erase location).entryAt? other =
      if other = location then none else tree.entryAt? other := by
  cases other with
  | nil => rw [if_neg (Ne.symm h)]; rfl
  | cons name names => exact lookup_filter_ne location (name :: names) tree.entries

theorem setIn_setIn (location : Location) (entry : Entry) (entries : List (Location × Entry)) :
    setIn location entry (setIn location entry entries) = setIn location entry entries := by
  induction entries with
  | nil => simp [setIn]
  | cons head rest ih => by_cases h : head.1 = location <;> simp [setIn, h, ih]

/-- Setting an entry once more changes nothing. -/
theorem set_set (tree : FileTree) (location : Location) (entry : Entry) :
    (tree.set location entry).set location entry = tree.set location entry := by
  simp only [set, setIn_setIn]

/-! ## Directories -/

theorem isDirectoryAt_of_entryAt? (h : tree.entryAt? location = some entry) :
    tree.isDirectoryAt location = entry.isDirectory := by
  rw [isDirectoryAt, h]
  rfl

theorem isSome_of_isDirectoryAt (h : tree.isDirectoryAt location = true) :
    (tree.entryAt? location).isSome = true := by
  rw [isDirectoryAt] at h
  cases found : tree.entryAt? location with
  | none => simp [found] at h
  | some entry => rfl

/-- The root is a directory. -/
theorem ne_nil_of_not_isDirectoryAt (h : tree.isDirectoryAt location = false) :
    location ≠ [] := by
  rintro rfl
  cases h

/-- A file in a place without a directory leaves all directories as they are. -/
theorem isDirectoryAt_set_file (h : tree.isDirectoryAt location = false) (content : ByteArray)
    (other : Location) :
    (tree.set location (.file content)).isDirectoryAt other = tree.isDirectoryAt other := by
  rw [isDirectoryAt, entryAt?_set (ne_nil_of_not_isDirectoryAt h)]
  split
  · next same =>
    rw [same, h]
    rfl
  · rfl

/-! ## Fresh names -/

theorem le_foldl_max (names : List String) (longest : Nat) :
    longest ≤ names.foldl (fun longest name => max longest name.length) longest ∧
      ∀ name ∈ names,
        name.length ≤ names.foldl (fun longest name => max longest name.length) longest := by
  induction names generalizing longest with
  | nil => exact ⟨Nat.le_refl longest, fun _ mem => absurd mem List.not_mem_nil⟩
  | cons head names ih =>
    obtain ⟨start, later⟩ := ih (max longest head.length)
    refine ⟨Nat.le_trans (Nat.le_max_left _ _) start, List.forall_mem_cons.mpr ⟨?_, later⟩⟩
    exact Nat.le_trans (Nat.le_max_right _ _) start

theorem length_temporaryMarks (marks : Nat) : (temporaryMarks marks).length = 4 + marks := by
  simp only [temporaryMarks, String.length_append, String.length_ofList, List.length_replicate]
  rfl

/-- No entry has the name of a temporary file. -/
theorem temporaryName_notMem (tree : FileTree) : tree.temporaryName ∉ tree.names := by
  unfold temporaryName
  split
  · intro mem
    have short := (le_foldl_max tree.names 0).2 _ mem
    rw [length_temporaryMarks] at short
    unfold longestName at short
    omega
  · assumption

theorem notMem_of_temporaryName (tree : FileTree) (directory : Location) :
    ∀ entry ∈ tree.entries, entry.1 ≠ directory ++ [tree.temporaryName] := by
  intro entry mem same
  refine tree.temporaryName_notMem (List.mem_filterMap.mpr ⟨entry, mem, ?_⟩)
  rw [same, List.getLast?_concat]

theorem setIn_of_fresh {entries : List (Location × Entry)}
    (fresh : ∀ entry ∈ entries, entry.1 ≠ location) :
    setIn location entry entries = entries ++ [(location, entry)] := by
  induction entries with
  | nil => rfl
  | cons head rest ih =>
    obtain ⟨here, later⟩ := List.forall_mem_cons.mp fresh
    rw [setIn, if_neg here, ih later, List.cons_append]

/-- An entry in a new place can be taken back. -/
theorem erase_set_of_fresh (fresh : ∀ entry ∈ tree.entries, entry.1 ≠ location) :
    (tree.set location entry).erase location = tree := by
  have kept : (tree.entries.filter fun entry => entry.1 ≠ location) = tree.entries :=
    List.filter_eq_self.mpr fun entry mem => by simpa using fresh entry mem
  simp only [set, erase, setIn_of_fresh fresh, List.filter_append, kept]
  simp

theorem entryAt?_of_fresh (ne : location ≠ []) (fresh : ∀ entry ∈ tree.entries, entry.1 ≠ location) :
    tree.entryAt? location = none := by
  have taken : (tree.set location (.directory false)).erase location = tree :=
    erase_set_of_fresh fresh
  rw [← taken, entryAt?_erase ne, if_pos rfl]

end FactoryOverloads.FileTree
