import FactoryOverloads.Proofs.FileTree.Entries

/-!
# Walking a tree with one file more

What a walk succeeds with is read off it step by step (`step_eq_ok_iff`,
`locate_eq_ok_iff`, `locateNew_eq_ok_iff`). A step only goes on from directories.
So when a file is put where no directory lies, every walk that succeeded before
still leads to the same location, and no new one succeeds except those that end
at the file itself (`walk_set_file`, `walk_of_set_file`, both by induction on the
names of the path). What lies at the end of any other path is what lay there
before (`inspect_set_file_iff`).
-/

namespace FactoryOverloads

/-! ## Steps that succeed -/

section Except

variable {ε α β : Type} {x : Except ε α} {f : α → Except ε β} {b : β}

theorem bind_eq_ok_iff : x >>= f = .ok b ↔ ∃ a, x = .ok a ∧ f a = .ok b := by
  cases x <;> simp [bind, Except.bind]

theorem map_eq_ok_iff {g : α → β} : g <$> x = .ok b ↔ ∃ a, x = .ok a ∧ g a = b := by
  cases x <;> simp [Functor.map, Except.map]

theorem toOption_eq_some_iff {a : α} : x.toOption = some a ↔ x = .ok a := by
  cases x <;> simp [Except.toOption]

/-- A refusal before a step. -/
theorem refuse_eq_ok_iff {refused : Prop} [Decidable refused] {e : ε} {y : Except ε β} :
    (if refused then .error e else y) = .ok b ↔ ¬ refused ∧ y = .ok b := by
  split <;> simp [*]

/-- A condition under which nothing goes on. -/
theorem unless_eq_ok_iff {refused : Prop} [Decidable refused] {e : ε} {g : PUnit → Except ε β}
    {y : Except ε β} :
    (if refused then throw e >>= g else y) = .ok b ↔ ¬ refused ∧ y = .ok b :=
  refuse_eq_ok_iff

end Except

namespace FileTree

variable {tree : FileTree} {place next last location : Location} {name path : String}
  {names : List String} {entry : Entry} {content : ByteArray}

/-- Where a step leads to, and what it asks of the tree. -/
theorem step_eq_ok_iff :
    tree.step place name = .ok next ↔ tree.isDirectoryAt place = true ∧
      (name = "." ∧ next = place ∨ name = ".." ∧ next = place.dropLast ∨
        (name ≠ "." ∧ name ≠ "..") ∧ name.utf8ByteSize ≤ maxNameBytes ∧
          (tree.entryAt? next).isSome = true ∧ next = place ++ [name]) := by
  rw [step, refuse_eq_ok_iff, Bool.not_eq_true, Bool.not_eq_false']
  refine and_congr_right fun _ => ?_
  by_cases here : name = "."
  · rw [if_pos here]
    simp [here, eq_comm (a := next)]
  by_cases above : name = ".."
  · rw [if_neg here, if_pos above]
    simp [above, eq_comm (a := next)]
  rw [if_neg here, if_neg above, refuse_eq_ok_iff, refuse_eq_ok_iff]
  simp only [here, above, false_and, false_or, ne_eq, not_false_eq_true, true_and, Nat.not_lt,
    Except.ok.injEq, Bool.not_eq_true, Option.isNone_eq_false_iff]
  constructor
  · rintro ⟨short, found, rfl⟩
    exact ⟨short, found, rfl⟩
  · rintro ⟨short, found, rfl⟩
    exact ⟨short, found, rfl⟩

theorem walk_cons_eq_ok_iff :
    (name :: names).foldlM tree.step place = .ok last ↔
      ∃ next, tree.step place name = .ok next ∧ names.foldlM tree.step next = .ok last := by
  rw [List.foldlM_cons, bind_eq_ok_iff]

theorem walk_nil_eq_ok_iff : [].foldlM tree.step place = .ok last ↔ place = last := by
  simp [pure, Except.pure]

theorem walk_append_eq_ok_iff {more : List String} :
    (names ++ more).foldlM tree.step place = .ok last ↔
      ∃ next, names.foldlM tree.step place = .ok next ∧ more.foldlM tree.step next = .ok last := by
  rw [List.foldlM_append, bind_eq_ok_iff]

/-- Points lead nowhere. -/
theorem eq_of_walk_points (points : ∀ name ∈ names, name = ".")
    (h : names.foldlM tree.step place = .ok last) : place = last := by
  induction names generalizing place with
  | nil => exact walk_nil_eq_ok_iff.mp h
  | cons name names ih =>
    obtain ⟨rfl, rest⟩ := List.forall_mem_cons.mp points
    obtain ⟨next, here, later⟩ := walk_cons_eq_ok_iff.mp h
    have stays : next = place := by simpa using (step_eq_ok_iff.mp here).2
    exact ih rest (stays ▸ later)

theorem walk_points (points : ∀ name ∈ names, name = ".")
    (inside : tree.isDirectoryAt place = true) :
    names.foldlM tree.step place = .ok place := by
  induction names with
  | nil => exact walk_nil_eq_ok_iff.mpr rfl
  | cons name names ih =>
    obtain ⟨rfl, rest⟩ := List.forall_mem_cons.mp points
    exact walk_cons_eq_ok_iff.mpr
      ⟨place, step_eq_ok_iff.mpr ⟨inside, .inl ⟨rfl, rfl⟩⟩, ih rest⟩

/-- Points behind other names do not matter, where the walk ends in a directory. -/
theorem walk_append_points_iff {idle : List String} (points : ∀ name ∈ idle, name = ".")
    (inside : tree.isDirectoryAt last = true) :
    (names ++ idle).foldlM tree.step place = .ok last ↔
      names.foldlM tree.step place = .ok last := by
  rw [walk_append_eq_ok_iff]
  constructor
  · rintro ⟨next, here, later⟩
    rwa [eq_of_walk_points points later] at here
  · exact fun here => ⟨last, here, walk_points points inside⟩

/-- A path leads to an entry when its names do, and only to a directory when it
ends in a slash. -/
theorem locate_eq_ok_iff :
    tree.locate path = .ok last ↔ checkPath path = .ok () ∧
      (steps path).foldlM tree.step (tree.start path) = .ok last ∧
      (endsInSlash path = true → tree.isDirectoryAt last = true) := by
  simp only [locate, bind_eq_ok_iff, unless_eq_ok_iff]
  constructor
  · rintro ⟨⟨⟩, checked, place, walked, slash, ⟨⟩⟩
    exact ⟨checked, walked, by simpa using slash⟩
  · rintro ⟨checked, walked, slash⟩
    exact ⟨(), checked, last, walked, by simpa using slash, rfl⟩

theorem inspect_eq_ok_iff :
    tree.inspect path = .ok entry ↔
      ∃ location, tree.locate path = .ok location ∧ tree.entryAt? location = some entry := by
  rw [inspect, bind_eq_ok_iff]
  refine exists_congr fun location => and_congr_right fun _ => ?_
  cases tree.entryAt? location <;> simp [throw, throwThe, MonadExceptOf.throw, pure, Except.pure]

theorem contains_iff : tree.contains path = true ↔ ∃ entry, tree.inspect path = .ok entry := by
  rw [contains]
  cases tree.inspect path <;> simp [Except.isOk, Except.toBool]

theorem isDirectory_iff :
    tree.isDirectory path = true ↔
      ∃ location, tree.locate path = .ok location ∧ tree.isDirectoryAt location = true := by
  rw [isDirectory]
  constructor
  · intro h
    split at h
    · next entry inspected =>
      obtain ⟨location, found, here⟩ := inspect_eq_ok_iff.mp inspected
      exact ⟨location, found, (isDirectoryAt_of_entryAt? here).trans h⟩
    · cases h
  · rintro ⟨location, found, directory⟩
    obtain ⟨entry, here⟩ := Option.isSome_iff_exists.mp (isSome_of_isDirectoryAt directory)
    rw [inspect_eq_ok_iff.mpr ⟨location, found, here⟩]
    exact (isDirectoryAt_of_entryAt? here).symm.trans directory

/-- The end of a path is a place for a new name when its directory is there. -/
theorem locateNew_eq_ok_iff :
    tree.locateNew path = .ok location ↔ checkPath path = .ok () ∧ ∃ directory name,
      (steps path).getLast? = some name ∧
      (steps path).dropLast.foldlM tree.step (tree.start path) = .ok directory ∧
      tree.isDirectoryAt directory = true ∧ (name ≠ "." ∧ name ≠ "..") ∧
      name.utf8ByteSize ≤ maxNameBytes ∧ location = directory ++ [name] := by
  rw [locateNew, bind_eq_ok_iff]
  constructor
  · rintro ⟨⟨⟩, checked, h⟩
    cases named : (steps path).getLast? with
    | none => rw [named] at h; cases h
    | some name =>
      rw [named] at h
      simp only [bind_eq_ok_iff, unless_eq_ok_iff] at h
      obtain ⟨directory, walked, inside, plain, short, ⟨⟩⟩ := h
      exact ⟨checked, directory, name, rfl, walked, by simpa using inside, by simpa using plain,
        Nat.le_of_not_lt short, rfl⟩
  · rintro ⟨checked, directory, name, named, walked, inside, plain, short, rfl⟩
    refine ⟨(), checked, ?_⟩
    rw [named]
    simp only [bind_eq_ok_iff, unless_eq_ok_iff]
    exact ⟨directory, walked, by simpa using inside, by simpa using plain, Nat.not_lt.mpr short,
      rfl⟩

/-! ## With one file more -/

section File

variable (clear : tree.isDirectoryAt location = false)
include clear

theorem step_set_file (h : tree.step place name = .ok next) :
    (tree.set location (.file content)).step place name = .ok next := by
  rw [step_eq_ok_iff] at h ⊢
  obtain ⟨inside, here | above | ⟨plain, short, found, rfl⟩⟩ := h
  all_goals rw [isDirectoryAt_set_file clear]
  · exact ⟨inside, .inl here⟩
  · exact ⟨inside, .inr (.inl above)⟩
  · refine ⟨inside, .inr (.inr ⟨plain, short, ?_, rfl⟩)⟩
    rw [entryAt?_set (ne_nil_of_not_isDirectoryAt clear)]
    split
    · rfl
    · exact found

theorem step_of_set_file (h : (tree.set location (.file content)).step place name = .ok next)
    (apart : next ≠ location) : tree.step place name = .ok next := by
  rw [step_eq_ok_iff, isDirectoryAt_set_file clear,
    entryAt?_set (ne_nil_of_not_isDirectoryAt clear), if_neg apart] at h
  exact step_eq_ok_iff.mpr h

/-- Walks go on leading where they led. -/
theorem walk_set_file (h : names.foldlM tree.step place = .ok last) :
    names.foldlM (tree.set location (.file content)).step place = .ok last := by
  induction names generalizing place with
  | nil => exact h
  | cons name names ih =>
    obtain ⟨next, here, later⟩ := walk_cons_eq_ok_iff.mp h
    exact walk_cons_eq_ok_iff.mpr ⟨next, step_set_file clear here, ih later⟩

/-- A walk that does not end at the file has not come through it either. -/
theorem walk_of_set_file
    (h : names.foldlM (tree.set location (.file content)).step place = .ok last)
    (apart : last ≠ location) : names.foldlM tree.step place = .ok last := by
  induction names generalizing place with
  | nil => exact h
  | cons name names ih =>
    obtain ⟨next, here, later⟩ := walk_cons_eq_ok_iff.mp h
    refine walk_cons_eq_ok_iff.mpr ⟨next, step_of_set_file clear here ?_, ih later⟩
    cases names with
    | nil => rwa [walk_nil_eq_ok_iff.mp later]
    | cons further names =>
      obtain ⟨_, there, -⟩ := walk_cons_eq_ok_iff.mp later
      have directory := (step_eq_ok_iff.mp there).1
      rw [isDirectoryAt_set_file clear] at directory
      rintro rfl
      rw [clear] at directory
      cases directory

theorem locate_set_file (h : tree.locate path = .ok last) :
    (tree.set location (.file content)).locate path = .ok last := by
  rw [locate_eq_ok_iff] at h ⊢
  obtain ⟨checked, walked, slash⟩ := h
  rw [isDirectoryAt_set_file clear]
  exact ⟨checked, walk_set_file clear walked, slash⟩

theorem locate_of_set_file (h : (tree.set location (.file content)).locate path = .ok last)
    (apart : last ≠ location) : tree.locate path = .ok last := by
  rw [locate_eq_ok_iff, isDirectoryAt_set_file clear] at h
  obtain ⟨checked, walked, slash⟩ := h
  exact locate_eq_ok_iff.mpr ⟨checked, walk_of_set_file clear walked apart, slash⟩

/-- What a path names that does not name the file is what it named before. -/
theorem inspect_set_file_iff
    (apart : (tree.set location (.file content)).locate path ≠ .ok location) :
    (tree.set location (.file content)).inspect path = .ok entry ↔
      tree.inspect path = .ok entry := by
  have lies (last : Location) (ne : last ≠ location) :
      (tree.set location (.file content)).entryAt? last = tree.entryAt? last := by
    rw [entryAt?_set (ne_nil_of_not_isDirectoryAt clear), if_neg ne]
  rw [inspect_eq_ok_iff, inspect_eq_ok_iff]
  constructor
  · rintro ⟨last, found, here⟩
    have ne : last ≠ location := fun same => apart (same ▸ found)
    exact ⟨last, locate_of_set_file clear found ne, lies last ne ▸ here⟩
  · rintro ⟨last, found, here⟩
    have again : (tree.set location (.file content)).locate path = .ok last :=
      locate_set_file clear found
    have ne : last ≠ location := fun same => apart (same ▸ again)
    exact ⟨last, again, (lies last ne).trans here⟩

theorem contains_set_file
    (apart : (tree.set location (.file content)).locate path ≠ .ok location) :
    (tree.set location (.file content)).contains path = tree.contains path := by
  rw [Bool.eq_iff_iff, contains_iff, contains_iff]
  exact exists_congr fun _ => inspect_set_file_iff clear apart

/-- A directory is the same one by the same path. -/
theorem inspect_set_file_of_directory {readOnly : Bool}
    (h : tree.inspect path = .ok (.directory readOnly)) :
    (tree.set location (.file content)).inspect path = .ok (.directory readOnly) := by
  obtain ⟨last, found, here⟩ := inspect_eq_ok_iff.mp h
  refine (inspect_set_file_iff clear ?_).mpr h
  rw [locate_set_file clear found]
  intro same
  cases same
  have directory := isDirectoryAt_of_entryAt? here
  rw [clear] at directory
  cases directory

theorem locateNew_set_file_iff :
    (tree.set location (.file content)).locateNew path = .ok last ↔
      tree.locateNew path = .ok last := by
  simp only [locateNew_eq_ok_iff, isDirectoryAt_set_file clear]
  refine and_congr_right fun _ => exists_congr fun directory => exists_congr fun name =>
    and_congr_right fun _ => and_congr_left fun h => ?_
  have apart : directory ≠ location := by
    rintro rfl
    rw [clear] at h
    cases h.1
  exact ⟨fun walked => walk_of_set_file clear walked apart, walk_set_file clear⟩

end File

end FileTree

end FactoryOverloads
