import FactoryOverloads.Proofs.FileTree.Walking

/-!
# Replacing a file

A file is replaced through a temporary one in the same directory. A tree takes a
file for a path (`Takes`) when both can be placed; then the temporary file is
gone in the end and the file lies at the end of the path, whatever walks there
looked like in between (`rename_eq_ok_iff`). The tree that is left differs from
the one before in this file alone (`replaced_of_takes`), and takes a file for the
path again (`Takes.set_file`).
-/

namespace FactoryOverloads.FileTree

variable {tree before after : FileTree} {location source place : Location}
  {path directory : String} {entry : Entry} {content : ByteArray}

/-! ## Places -/

theorem locateReplaced_eq_ok_iff :
    tree.locateReplaced path = .ok location ↔ tree.locateNew path = .ok location ∧
      endsInSlash path = false ∧ tree.isDirectoryAt location = false := by
  rw [locateReplaced]
  split
  · next failed => simp [failed, throw, throwThe, MonadExceptOf.throw, bind, Except.bind]
  · next failed => simp [failed, throw, throwThe, MonadExceptOf.throw, bind, Except.bind]
  · next found =>
    simp only [found, pure_bind, unless_eq_ok_iff]
    constructor
    · rintro ⟨slash, clear, ⟨⟩⟩
      exact ⟨rfl, by simpa using slash, by simpa using clear⟩
    · rintro ⟨⟨⟩, slash, clear⟩
      exact ⟨by simpa using slash, by simpa using clear, rfl⟩

/-- A file goes to where no directory lies. -/
theorem clear_of_locateReplaced (h : tree.locateReplaced path = .ok location) :
    tree.isDirectoryAt location = false :=
  (locateReplaced_eq_ok_iff.mp h).2.2

theorem locateReplaced_set_file_iff (clear : tree.isDirectoryAt source = false) :
    (tree.set source (.file content)).locateReplaced path = .ok location ↔
      tree.locateReplaced path = .ok location := by
  simp only [locateReplaced_eq_ok_iff, locateNew_set_file_iff clear, isDirectoryAt_set_file clear]

theorem locateTemporary_eq_ok_iff :
    tree.locateTemporary directory = .ok source ↔
      checkPath (tree.temporaryPath directory) = .ok () ∧ ∃ place,
        (steps directory).foldlM tree.step (tree.start directory) = .ok place ∧
        tree.isDirectoryAt place = true ∧ source = place ++ [tree.temporaryName] := by
  simp only [locateTemporary, bind_eq_ok_iff, unless_eq_ok_iff]
  constructor
  · rintro ⟨⟨⟩, checked, place, walked, inside, ⟨⟩⟩
    exact ⟨checked, place, walked, by simpa using inside, rfl⟩
  · rintro ⟨checked, place, walked, inside, rfl⟩
    exact ⟨(), checked, place, walked, by simpa using inside, rfl⟩

/-- The place of a temporary file is new. -/
theorem fresh_of_locateTemporary (h : tree.locateTemporary directory = .ok source) :
    source ≠ [] ∧ ∀ entry ∈ tree.entries, entry.1 ≠ source := by
  obtain ⟨-, place, -, -, rfl⟩ := locateTemporary_eq_ok_iff.mp h
  exact ⟨List.concat_ne_nil _ _, tree.notMem_of_temporaryName place⟩

theorem clear_of_locateTemporary (h : tree.locateTemporary directory = .ok source) :
    tree.isDirectoryAt source = false := by
  obtain ⟨ne, fresh⟩ := fresh_of_locateTemporary h
  rw [isDirectoryAt, entryAt?_of_fresh ne fresh]
  rfl

theorem exists_locateTemporary_set_file (clear : tree.isDirectoryAt location = false)
    (h : tree.locateTemporary directory = .ok source) :
    ∃ source, (tree.set location (.file content)).locateTemporary directory = .ok source := by
  obtain ⟨checked, place, walked, inside, -⟩ := locateTemporary_eq_ok_iff.mp h
  rw [← isDirectoryAt_set_file clear content] at inside
  exact ⟨_, locateTemporary_eq_ok_iff.mpr
    ⟨checked, place, walk_set_file clear walked, inside, rfl⟩⟩

/-! ## The end of the path -/

/-- The path of a file that has been put in a place leads to it. -/
theorem locate_set_of_locateReplaced (h : tree.locateReplaced path = .ok location) :
    (tree.set location (.file content)).locate path = .ok location := by
  obtain ⟨placed, slash, clear⟩ := locateReplaced_eq_ok_iff.mp h
  obtain ⟨checked, directory, name, named, walked, inside, ⟨here, above⟩, short, rfl⟩ :=
    locateNew_eq_ok_iff.mp placed
  have last : (tree.set (directory ++ [name]) (.file content)).step directory name =
      .ok (directory ++ [name]) := by
    rw [step_eq_ok_iff, isDirectoryAt_set_file clear, entryAt?_set (List.concat_ne_nil _ _),
      if_pos rfl]
    exact ⟨inside, .inr (.inr ⟨⟨here, above⟩, short, rfl, rfl⟩)⟩
  obtain ⟨names, split⟩ := List.getLast?_eq_some_iff.mp named
  rw [split, List.dropLast_concat] at walked
  refine locate_eq_ok_iff.mpr ⟨checked, ?_, fun e => by rw [slash] at e; cases e⟩
  rw [split, walk_append_eq_ok_iff]
  exact ⟨directory, walk_set_file clear walked, walk_cons_eq_ok_iff.mpr ⟨_, last, rfl⟩⟩

theorem inspect_set_of_locateReplaced (h : tree.locateReplaced path = .ok location) :
    (tree.set location (.file content)).inspect path = .ok (.file content) := by
  refine inspect_eq_ok_iff.mpr ⟨location, locate_set_of_locateReplaced h, ?_⟩
  rw [entryAt?_set (ne_nil_of_not_isDirectoryAt (clear_of_locateReplaced h)), if_pos rfl]

theorem read_of_inspect (h : tree.inspect path = .ok (.file content)) :
    tree.read path = .ok content := by
  rw [read, h]
  rfl

/-- Paths that lead to one location name one file. -/
theorem read_congr {first second : String} (h : tree.locate first = tree.locate second) :
    tree.read first = tree.read second := by
  rw [read, read, inspect, inspect, h]

/-! ## Through a temporary file -/

/-- The content lies at the end of the path, and everywhere else lies what lay
there before. -/
structure Replaced (before : FileTree) (path : String) (content : ByteArray)
    (after : FileTree) : Prop where
  content : after.read path = .ok content
  others : ∀ location, after.locate path ≠ .ok location →
    after.entryAt? location = before.entryAt? location
  base : after.base = before.base

/-- A file can be put in the place at the end of the path, through a temporary
one in the directory of the path. -/
structure Takes (tree : FileTree) (path : String) (location : Location) : Prop where
  staged : ∃ source, tree.locateTemporary (Path.directory path) = .ok source
  placed : tree.locateReplaced path = .ok location

theorem Takes.clear (h : tree.Takes path location) : tree.isDirectoryAt location = false :=
  clear_of_locateReplaced h.placed

/-- What has been put there can be replaced in its turn. -/
theorem Takes.set_file (h : tree.Takes path location) :
    (tree.set location (.file content)).Takes path location := by
  obtain ⟨source, staged⟩ := h.staged
  exact ⟨exists_locateTemporary_set_file h.clear staged,
    (locateReplaced_set_file_iff h.clear).mpr h.placed⟩

theorem replaced_of_takes (h : tree.Takes path location) :
    tree.Replaced path content (tree.set location (.file content)) where
  content := read_of_inspect (inspect_set_of_locateReplaced h.placed)
  others other apart := by
    rw [entryAt?_set (ne_nil_of_not_isDirectoryAt h.clear), if_neg]
    rintro rfl
    exact apart (locate_set_of_locateReplaced h.placed)
  base := rfl

/-- The temporary file takes the place at the end of the path, and its own place
is empty again. -/
theorem rename_eq_ok_iff (staged : tree.locateTemporary directory = .ok source) :
    (tree.set source (.file content)).rename source path = .ok after ↔
      ∃ location, tree.locateReplaced path = .ok location ∧
        after = tree.set location (.file content) := by
  obtain ⟨ne, fresh⟩ := fresh_of_locateTemporary staged
  rw [rename, bind_eq_ok_iff]
  refine exists_congr fun location => and_congr
    (locateReplaced_set_file_iff (clear_of_locateTemporary staged)) ?_
  rw [entryAt?_set ne, if_pos rfl, erase_set_of_fresh fresh]
  simp [pure, Except.pure, eq_comm]

end FactoryOverloads.FileTree
