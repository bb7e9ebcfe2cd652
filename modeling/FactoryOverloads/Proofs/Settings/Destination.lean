import FactoryOverloads.Generation
import FactoryOverloads.Proofs.Artifact.Writing
import FactoryOverloads.Proofs.FileTree.Directory

/-!
# What the check of a destination is worth

The check looks at the directory of the destination as its path is spelled, and
the write walks the path itself. Both come to the same place: the two spellings
differ in points, and these lead nowhere (`Settings.walk_of_checkDestination`).

So a destination that passes takes a file, if its path can be that of a file at
all (`FileTree.Admits`). The check does not look at this: a path that is empty or
too long, or that ends in a slash, in a point or in a name that is too long,
passes and is refused by the write (`Settings.checkDestination_decides`).
-/

namespace FactoryOverloads

variable {tree : FileTree} {settings : Settings} {warnings : List Record} {location : Location}
  {path : String}

/-! ## Paths of files -/

/-- A path that a file can have, whatever else lies in the tree: it ends in the
name of the file, and neither it nor that of a temporary file is too long. -/
structure FileTree.Admits (tree : FileTree) (path : String) : Prop where
  whole : checkPath path = .ok ()
  temporary : checkPath (tree.temporaryPath (Path.directory path)) = .ok ()
  named : ∃ name, (Path.segments path).getLast? = some name ∧ name ∉ ["", ".", ".."] ∧
    name.utf8ByteSize ≤ maxNameBytes

namespace FileTree

theorem ne_empty_of_checkPath (h : checkPath path = .ok ()) : path ≠ "" := by
  rintro rfl
  cases h

/-- A file that can be put at the end of a path has a name there. -/
theorem Takes.admits (h : tree.Takes path location) : tree.Admits path := by
  obtain ⟨source, staged⟩ := h.staged
  obtain ⟨placed, slash, -⟩ := locateReplaced_eq_ok_iff.mp h.placed
  obtain ⟨checked, directory, name, named, -, -, ⟨here, above⟩, short, -⟩ :=
    locateNew_eq_ok_iff.mp placed
  refine ⟨checked, (locateTemporary_eq_ok_iff.mp staged).1, name, ?_⟩
  rcases List.eq_nil_or_concat (Path.segments path) with none | ⟨before, last, split⟩
  · rw [steps, none] at named
    cases named
  · rw [List.concat_eq_append] at split
    have filled : last ≠ "" := fun empty => by
      rw [(Path.endsInSlash_iff split (ne_empty_of_checkPath checked)).mpr empty] at slash
      cases slash
    rw [steps_of_segments split (List.forall_mem_nil _) filled, List.getLast?_concat,
      Option.some.injEq] at named
    subst named
    exact ⟨by rw [split, List.getLast?_concat], by simp [filled, here, above], short⟩

end FileTree

/-! ## The check -/

namespace Settings

theorem checkDestination_eq_ok_iff :
    settings.checkDestination tree = .ok warnings ↔
      tree.isDirectory settings.output = false ∧
      tree.inspect (Path.directory settings.output) = .ok (.directory false) ∧
      settings.extensionWarning = warnings := by
  rw [checkDestination]
  cases tree.isDirectory settings.output with
  | true => simp
  | false =>
    rw [if_neg Bool.false_ne_true]
    rcases inspected : tree.inspect (Path.directory settings.output) with
      cause | ⟨content | ⟨_ | _⟩⟩
    all_goals simp [checkDirectory, inspected]

/-- What the check refuses is wrong with the settings. -/
theorem checkDestination_cases (settings : Settings) (tree : FileTree) :
    (∃ warnings, settings.checkDestination tree = .ok warnings) ∨
      ∃ cause, settings.checkDestination tree = .error (.settings cause) := by
  rw [checkDestination]
  split
  · exact .inr ⟨_, rfl⟩
  · split
    · exact .inr ⟨_, rfl⟩
    · exact .inl ⟨_, rfl⟩

/-- The directory that the check has found is where the walk to the destination
comes to, and where a temporary file goes. -/
theorem walk_of_checkDestination {before : List String} {name : String}
    (split : Path.segments settings.output = before ++ [name]) (plain : name ≠ "" ∧ name ≠ ".")
    (checked : settings.checkDestination tree = .ok warnings) :
    ∃ place, tree.isDirectoryAt place = true ∧
      (FileTree.steps (Path.directory settings.output)).foldlM tree.step
        (tree.start (Path.directory settings.output)) = .ok place ∧
      (FileTree.steps settings.output).dropLast.foldlM tree.step
        (tree.start settings.output) = .ok place := by
  obtain ⟨-, inspected, -⟩ := checkDestination_eq_ok_iff.mp checked
  obtain ⟨place, located, found⟩ := FileTree.inspect_eq_ok_iff.mp inspected
  obtain ⟨-, walked, -⟩ := FileTree.locate_eq_ok_iff.mp located
  have inside : tree.isDirectoryAt place = true := FileTree.isDirectoryAt_of_entryAt? found
  exact ⟨place, inside, walked,
    (FileTree.walk_directory_iff split (List.forall_mem_nil _) plain inside).mp walked⟩

/-- A file can be put where the check has found nothing wrong and the path allows
for one. -/
theorem exists_takes_of_checkDestination
    (checked : settings.checkDestination tree = .ok warnings)
    (admitted : tree.Admits settings.output) :
    ∃ location, tree.Takes settings.output location := by
  obtain ⟨name, last, plain, short⟩ := admitted.named
  obtain ⟨filled, here, above⟩ : name ≠ "" ∧ name ≠ "." ∧ name ≠ ".." := by simpa using plain
  obtain ⟨before, split⟩ := List.getLast?_eq_some_iff.mp last
  obtain ⟨place, inside, toDirectory, toName⟩ :=
    walk_of_checkDestination split ⟨filled, here⟩ checked
  have steps := FileTree.steps_of_segments split (List.forall_mem_nil _) filled
  have slash : FileTree.endsInSlash settings.output = false := by
    have some := FileTree.ne_empty_of_checkPath admitted.whole
    rwa [Bool.eq_false_iff, ne_eq, Path.endsInSlash_iff split some]
  have placed : tree.locateNew settings.output = .ok (place ++ [name]) :=
    FileTree.locateNew_eq_ok_iff.mpr ⟨admitted.whole, place, name,
      by rw [steps, List.getLast?_concat], toName, inside, ⟨here, above⟩, short, rfl⟩
  have clear : tree.isDirectoryAt (place ++ [name]) = false := by
    rw [Bool.eq_false_iff]
    intro directory
    have located : tree.locate settings.output = .ok (place ++ [name]) := by
      refine FileTree.locate_eq_ok_iff.mpr ⟨admitted.whole, ?_, fun _ => directory⟩
      rw [steps, List.dropLast_concat] at toName
      rw [steps, FileTree.walk_append_eq_ok_iff]
      refine ⟨place, toName, FileTree.walk_cons_eq_ok_iff.mpr ⟨_, ?_, rfl⟩⟩
      exact FileTree.step_eq_ok_iff.mpr ⟨inside, .inr (.inr
        ⟨⟨here, above⟩, short, FileTree.isSome_of_isDirectoryAt directory, rfl⟩)⟩
    have own := FileTree.isDirectory_iff.mpr ⟨_, located, directory⟩
    rw [(checkDestination_eq_ok_iff.mp checked).1] at own
    cases own
  exact ⟨place ++ [name],
    ⟨_, FileTree.locateTemporary_eq_ok_iff.mpr
      ⟨admitted.temporary, place, toDirectory, inside, rfl⟩⟩,
    FileTree.locateReplaced_eq_ok_iff.mpr ⟨placed, slash, clear⟩⟩

/-- Whether an artifact can be written to a destination that has passed the check
is decided by its path alone. So a destination that a file could have, but that
none can be written to, is refused before any work is done. -/
theorem checkDestination_decides (settings : Settings) (tree : FileTree) (artifact : Artifact) :
    (∀ warnings, settings.checkDestination tree = .ok warnings →
      ((∃ size, (artifact.write settings.output tree).result = .ok size) ↔
        tree.Admits settings.output)) ∧
    (tree.Admits settings.output →
      (∀ size, (artifact.write settings.output tree).result ≠ .ok size) →
      settings.validate = .ok () →
      ∃ cause, ∀ (State : Type) (engine : Engine State) (state : State),
        Generation.run engine state settings false tree = .failed (.settings cause) [] tree) := by
  have written : (∃ size, (artifact.write settings.output tree).result = .ok size) ↔
      ∃ location, tree.Takes settings.output location :=
    artifact.write_eq_ok_iff settings.output tree
  have passes {warnings : List Record} (checked : settings.checkDestination tree = .ok warnings) :
      (∃ size, (artifact.write settings.output tree).result = .ok size) ↔
        tree.Admits settings.output :=
    written.trans ⟨fun ⟨_, takes⟩ => takes.admits, exists_takes_of_checkDestination checked⟩
  refine ⟨fun _ => passes, fun admitted unwritten valid => ?_⟩
  rcases checkDestination_cases settings tree with ⟨warnings, checked⟩ | ⟨cause, refused⟩
  · obtain ⟨size, done⟩ := (passes checked).mpr admitted
    exact absurd done (unwritten size)
  · refine ⟨cause, fun State engine state => ?_⟩
    rw [Generation.run, valid]
    dsimp only
    rw [if_neg Bool.false_ne_true, refused]

theorem checkDestination_decides_below_base :
    (∃ size, (Artifact.write ⟨"a", [], "b"⟩ "sub//./out.hpp"
      ⟨[(["work"], .directory false), (["work", "sub"], .directory false)], ["work"]⟩).result =
        .ok size) ∧
    ∃ cause, ∀ (State : Type) (engine : Engine State) (state : State),
      Generation.run engine state ⟨1, 1, "none/out.hpp", .cpp⟩ false
          ⟨[(["work"], .directory false)], ["work"]⟩ =
        .failed (.settings cause) [] ⟨[(["work"], .directory false)], ["work"]⟩ := by
  constructor
  · exact ((checkDestination_decides ⟨1, 1, "sub//./out.hpp", .cpp⟩ _ _).1 [] rfl).mpr
      ⟨rfl, rfl, "out.hpp", by decide⟩
  · exact (checkDestination_decides ⟨1, 1, "none/out.hpp", .cpp⟩ _ ⟨"a", [], "b"⟩).2
      ⟨rfl, rfl, "out.hpp", by decide⟩ nofun rfl

/-- A destination that ends in a slash passes the check, and nothing can be written
to it. -/
theorem checkDestination_not_sufficient :
    checkDestination ⟨1, 1, "out.hpp/", .cpp⟩ ⟨[(["work"], .directory false)], ["work"]⟩ = .ok [] ∧
      (Artifact.write ⟨"a", [], "b"⟩ "out.hpp/" ⟨[(["work"], .directory false)], ["work"]⟩).result =
        .error (.write "out.hpp/" (.replace .notDirectory)) :=
  ⟨rfl, rfl⟩

end Settings

end FactoryOverloads
