import FactoryOverloads.Proofs.FileTree.Replacing
import FactoryOverloads.Proofs.Path.Components
import FactoryOverloads.Settings.File

/-!
# Where the directory of a path leads

A path that can be given to a file is walked to the place of the file. The
directory of the path is taken from its text, without a look at the tree, and it
leads to where the walk came by last (`FileTree.walk_directory_iff`). So whatever
is done with the directory is done in the place where the file lies
(`FileTree.Houses`): it is inspected for the check, the temporary file goes there,
and from there the destination in a settings file is seen
(`FileTree.houses_of_locateNew`).
-/

namespace FactoryOverloads

/-! ## Texts -/

namespace Path

/-- A directory is written at the beginning of the path, unless it is the root or
the present one. -/
theorem directory_cases (path : String) :
    directory path = "." ∨ directory path = "/" ∨ ∃ rest, path = directory path ++ rest := by
  rw [directory, parent?]
  cases kept : trimmed (segments path).reverse with
  | nil => exact .inl rfl
  | cons last before =>
    obtain ⟨behind, cut, -⟩ := exists_trimmed (segments path).reverse
    obtain ⟨between, cut', -⟩ := exists_trimmed before
    have split : segments path =
        (trimmed before).reverse ++ (behind ++ last :: between).reverse := by
      rw [← List.reverse_append, List.append_assoc, List.cons_append, ← cut', ← kept, ← cut,
        List.reverse_reverse]
    have whole := intercalate_segments path
    dsimp only
    rw [spelled]
    by_cases empty : "/".intercalate (trimmed before).reverse = ""
    · cases isAbsolute path with
      | true => exact .inr (.inl (by simp [empty]))
      | false => exact .inl (by simp [empty])
    · refine .inr (.inr ⟨"/" ++ "/".intercalate (behind ++ last :: between).reverse, ?_⟩)
      have some : (trimmed before).reverse ≠ [] := fun none => empty (by rw [none]; rfl)
      rw [split, String.intercalate_append_of_ne_nil some (by simp)] at whole
      simp [empty, ← whole, String.append_assoc]

/-- A joined path ends in what was joined. -/
theorem exists_join_eq_append (base path : String) : ∃ before, join base path = before ++ path := by
  unfold join
  split
  · exact ⟨"", String.empty_append.symm⟩
  · split
    · exact ⟨base, rfl⟩
    · exact ⟨base ++ "/", rfl⟩

end Path

namespace FileTree

variable {tree : FileTree} {path base name : String} {before idle : List String}
  {place location : Location}

theorem checkPath_eq_ok_iff :
    checkPath path = .ok () ↔
      '\x00' ∉ path.toList ∧ path ≠ "" ∧ path.utf8ByteSize < pathLimit := by
  unfold checkPath
  rw [refuse_eq_ok_iff, refuse_eq_ok_iff, refuse_eq_ok_iff]
  simp

theorem checkPath_directory (h : checkPath path = .ok ()) :
    checkPath (Path.directory path) = .ok () := by
  rcases Path.directory_cases path with present | root | ⟨rest, written⟩
  · rw [present]; rfl
  · rw [root]; rfl
  · obtain ⟨clean, -, short⟩ := checkPath_eq_ok_iff.mp h
    rw [written, String.toList_append, List.mem_append, not_or] at clean
    rw [written, String.utf8ByteSize_append] at short
    exact checkPath_eq_ok_iff.mpr ⟨clean.1, Path.directory_ne_empty path, by omega⟩

theorem checkPath_of_join (filled : path ≠ "") (h : checkPath (Path.join base path) = .ok ()) :
    checkPath path = .ok () := by
  obtain ⟨before, joined⟩ := Path.exists_join_eq_append base path
  obtain ⟨clean, -, short⟩ := checkPath_eq_ok_iff.mp h
  rw [joined, String.toList_append, List.mem_append, not_or] at clean
  rw [joined, String.utf8ByteSize_append] at short
  exact checkPath_eq_ok_iff.mpr ⟨clean.2, filled, by omega⟩

/-! ## Steps -/

/-- The last step of a path is a segment with nothing but slashes behind it. -/
theorem exists_segments_of_steps (h : (steps path).getLast? = some name) :
    ∃ before idle, Path.segments path = before ++ name :: idle ∧
      ∀ segment ∈ idle, segment = "" := by
  obtain ⟨names, split⟩ := List.getLast?_eq_some_iff.mp h
  obtain ⟨before, behind, pieces, -, rest⟩ := List.filter_eq_append_iff.mp split
  obtain ⟨skipped, idle, rfl, -, -, nothing⟩ := List.filter_eq_cons_iff.mp rest
  refine ⟨before ++ skipped, idle, by rw [pieces, List.append_assoc], fun segment mem => ?_⟩
  simpa using List.filter_eq_nil_iff.mp nothing segment mem

/-- The directory of a path leads to where the walk to the path's end comes by
last. -/
theorem walk_directory_iff (split : Path.segments path = before ++ name :: idle)
    (blank : ∀ segment ∈ idle, segment = "") (plain : name ≠ "" ∧ name ≠ ".")
    (inside : tree.isDirectoryAt place = true) :
    (steps (Path.directory path)).foldlM tree.step (tree.start (Path.directory path)) =
        .ok place ↔
      (steps path).dropLast.foldlM tree.step (tree.start path) = .ok place := by
  obtain ⟨absolute, names, idle, idle', toDirectory, toName, points, points'⟩ :=
    exists_steps_directory split blank plain
  have start : tree.start (Path.directory path) = tree.start path := by
    rw [FileTree.start, FileTree.start, absolute]
  rw [toDirectory, toName, start, walk_append_points_iff points inside,
    walk_append_points_iff points' inside]

theorem steps_ne_nil (filled : path ≠ "") (relative : Path.isAbsolute path = false) :
    steps path ≠ [] := by
  obtain ⟨first, more, split, some⟩ := Path.exists_first_segment filled relative
  rw [steps, split, List.filter_cons_of_pos (by simpa using some)]
  exact List.cons_ne_nil _ _

theorem steps_join (filled : base ≠ "") (relative : Path.isAbsolute path = false) :
    steps (Path.join base path) = steps base ++ steps path := by
  obtain ⟨before, -, joined, own⟩ := Path.segments_join filled relative
  rw [steps, joined, List.filter_append, steps, steps]
  rcases own with same | slash
  · rw [same]
  · have empty : [""].filter (fun name => !name.isEmpty) = [] := rfl
    rw [slash, List.filter_append, empty, List.append_nil]

/-! ## Places -/

/-- The directory of a path, as its text is read, stands for a place. What is
checked there is the entry of the place, a temporary file goes there, and what a
settings file of this path says of the destination is seen from there. -/
structure Houses (tree : FileTree) (place : Location) (path : String) : Prop where
  located : tree.locate (Path.directory path) = .ok place
  checked : Settings.checkDirectory tree (Path.directory path) = .ok () ↔
    tree.entryAt? place = some (.directory false)
  staged : tree.locateTemporary (Path.directory path) =
    (checkPath (tree.temporaryPath (Path.directory path))).map fun _ =>
      place ++ [tree.temporaryName]
  rebased : ∀ (layer : Settings.Layer) (output : String), layer.output = some output →
    output ≠ "" → ∃ seen, (layer.rebase path).output = some seen ∧
      ∀ location, tree.locateNew seen = .ok location ↔ checkPath seen = .ok () ∧
        { tree with base := place }.locateNew output = .ok location

/-- The directory of a path leads to where the file lies that the path names. -/
theorem locate_directory (placed : tree.locateNew path = .ok location) :
    tree.locate (Path.directory path) = .ok location.dropLast ∧
      tree.isDirectoryAt location.dropLast = true := by
  obtain ⟨checked, directory, name, named, walked, inside, ⟨here, -⟩, -, rfl⟩ :=
    locateNew_eq_ok_iff.mp placed
  obtain ⟨before, idle, split, blank⟩ := exists_segments_of_steps named
  have filled : name ≠ "" := by
    have mem := List.mem_of_getLast? named
    simpa using (List.mem_filter.mp mem).2
  have walk := (walk_directory_iff split blank ⟨filled, here⟩ inside).mpr walked
  rw [List.dropLast_concat]
  exact ⟨locate_eq_ok_iff.mpr ⟨checkPath_directory checked, walk, fun _ => inside⟩, inside⟩

theorem checkDirectory_eq_ok_iff :
    Settings.checkDirectory tree path = .ok () ↔ tree.inspect path = .ok (.directory false) := by
  rw [Settings.checkDirectory]
  rcases tree.inspect path with cause | ⟨content | ⟨_ | _⟩⟩ <;> simp

theorem locateTemporary_eq_of_locate {directory : String}
    (located : tree.locate directory = .ok place) (inside : tree.isDirectoryAt place = true) :
    tree.locateTemporary directory =
      (checkPath (tree.temporaryPath directory)).map fun _ => place ++ [tree.temporaryName] := by
  obtain ⟨-, walked, -⟩ := locate_eq_ok_iff.mp located
  rw [locateTemporary, walked]
  cases checkPath (tree.temporaryPath directory) with
  | error cause => rfl
  | ok done =>
    show (if !tree.isDirectoryAt place then _ else _) = _
    rw [inside]
    rfl

/-- A path that is joined to a directory leads on from there. -/
theorem locateNew_join_iff (located : tree.locate base = .ok place) (some : base ≠ "")
    (filled : path ≠ "") :
    tree.locateNew (Path.join base path) = .ok location ↔
      checkPath (Path.join base path) = .ok () ∧
        { tree with base := place }.locateNew path = .ok location := by
  rw [locateNew_eq_ok_iff, locateNew_eq_ok_iff]
  refine and_congr_right fun checked => ?_
  rw [and_iff_right (checkPath_of_join filled checked)]
  refine exists_congr fun directory => exists_congr fun name => ?_
  cases absolute : Path.isAbsolute path with
  | true =>
    have own : Path.join base path = path := by rw [Path.join, if_pos absolute]
    have root : { tree with base := place }.start path = tree.start path := by
      rw [start, start, absolute, if_pos rfl, if_pos rfl]
    rw [own, root]
    rfl
  | false =>
    obtain ⟨-, walked, -⟩ := locate_eq_ok_iff.mp located
    have behind := steps_ne_nil filled absolute
    have begins : tree.start (Path.join base path) = tree.start base := by
      rw [start, start, Path.isAbsolute_join some absolute]
    have onward : { tree with base := place }.start path = place := by
      rw [start, absolute, if_neg Bool.false_ne_true]
    rw [steps_join some absolute, List.getLast?_append_of_ne_nil _ behind,
      List.dropLast_append_of_ne_nil behind, List.foldlM_append, begins, walked, onward]
    rfl

theorem houses_of_locateNew (placed : tree.locateNew path = .ok location) :
    tree.Houses location.dropLast path := by
  obtain ⟨located, inside⟩ := locate_directory placed
  refine ⟨located, ?_, locateTemporary_eq_of_locate located inside,
    fun layer output own filled => ⟨_, by rw [Settings.Layer.rebase, own]; rfl, fun _ =>
      locateNew_join_iff located (Path.directory_ne_empty path) filled⟩⟩
  rw [checkDirectory_eq_ok_iff, inspect_eq_ok_iff, located]
  simp

/-- The directory of a path and the name that the path ends in make up the path, and
the directory of what is made up is what it was made of. It is where the file lies
that the path names, for the check, for the temporary file and for the destination
in a settings file. -/
theorem directory_leads_to_place :
    (∀ path name, (Path.components path).getLast? = some (.name name) →
      Path.directory path ≠ "" ∧
      Path.components (Path.join (Path.directory path) name) =
        if Path.components path = [.name name] then [.here, .name name]
        else Path.components path) ∧
    (∀ base name, base ≠ "" → Path.IsName name →
      Path.components (Path.directory (Path.join base name)) = Path.components base) ∧
    (∀ path, Path.parent? path = none → Path.directory path = ".") ∧
    ∀ (tree : FileTree) path location, tree.locateNew path = .ok location →
      tree.Houses location.dropLast path :=
  ⟨fun path _ ends => ⟨Path.directory_ne_empty path, Path.components_join_directory ends⟩,
    fun _ _ filled name => name.components_directory_join filled,
    fun _ => Path.directory_of_parent?_eq_none, fun _ _ _ => houses_of_locateNew⟩

/-- Paths with points and slashes between, before and behind their names. -/
theorem directory_leads_to_place_of_untidy_path :
    Path.components (Path.join (Path.directory "./a//./b/./") "b") =
        [.here, .name "a", .name "b"] ∧
      Path.components (Path.directory (Path.join "/x/." "n")) = [.root, .name "x"] ∧
      Path.directory "/" = "." ∧
      FileTree.Houses ⟨[(["work"], .directory false), (["work", "sub"], .directory false)],
        ["work"]⟩ ["work", "sub"] ".//sub/./out.hpp" := by
  refine ⟨?_, ?_, directory_leads_to_place.2.2.1 "/" (by decide),
    directory_leads_to_place.2.2.2 _ _ ["work", "sub", "out.hpp"] rfl⟩
  · exact (directory_leads_to_place.1 "./a//./b/./" "b" (by decide)).2.trans (by decide)
  · have name : Path.IsName "n" := ⟨by decide, by decide, by decide, by decide⟩
    exact (directory_leads_to_place.2.1 "/x/." "n" (by decide) name).trans (by decide)

end FileTree

end FactoryOverloads
