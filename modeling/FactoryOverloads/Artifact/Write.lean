import FactoryOverloads.Artifact
import FactoryOverloads.FileTree.Staging
import FactoryOverloads.Log

/-!
# Writing artifacts

`Artifact.write` puts an artifact in the place of its destination. The destination holds either all
of the artifact or what it held before.

A write has five steps: a temporary file is created, takes the content, is brought onto the medium
and asked for its size, and then replaces the destination. The tree decides about the first and the
last. Besides, the system can refuse any of them (`Faults`), and `Artifact.writeWith` is a write in
which it does.
-/

namespace FactoryOverloads

/-- What a step of a run leaves behind: its result, what it reports on the way, and the tree. -/
structure Outcome (α : Type) where
  result : Except Failure α
  records : List Record
  tree : FileTree

/-- What comes of a step that fails before anything else happens. -/
def Outcome.failed {α : Type} (cause : Failure) (records : List Record) (tree : FileTree) :
    Outcome α :=
  ⟨.error cause, records, tree⟩

/-- The steps of a write that the system refuses, whatever the tree, each with the reason. -/
structure Faults where
  create : Option OsError
  /-- With the number of bytes that are written before. -/
  content : Option (Nat × OsError)
  sync : Option OsError
  size : Option OsError
  replace : Option OsError
  deriving DecidableEq, Repr

/-- The system refuses nothing. -/
def Faults.none : Faults := ⟨.none, .none, .none, .none, .none⟩

/-- A step that the system may refuse. -/
def refusable {α : Type} (fault : Option OsError) (step : Except OsError α) : Except OsError α :=
  match fault with
  | some cause => .error cause
  | none => step

namespace Artifact

/-- What the temporary file holds in the end, and its size or why it is given up. -/
def fill (faults : Faults) (artifact : Artifact) : ByteArray × Except WriteError Nat :=
  let content := artifact.streamed
  match faults.content, faults.sync, faults.size with
  | some (written, cause), _, _ => (content.extract 0 written, .error (.content cause))
  | none, some cause, _ => (content, .error (.sync cause))
  | none, none, some cause => (content, .error (.size cause))
  | none, none, none => (content, .ok content.size)

/-- Write an artifact to a destination. The result is the size of the file that was written. A
temporary file that is given up is removed. -/
def writeWith (faults : Faults) (artifact : Artifact) (destination : String) (tree : FileTree) :
    Outcome Nat :=
  let directory := Path.directory destination
  let temporary := tree.temporaryPath directory
  match refusable faults.create (tree.locateTemporary directory) with
  | .error cause => .failed (.write destination (.temporary directory temporary cause)) [] tree
  | .ok location =>
    let (content, filled) := artifact.fill faults
    let staged := tree.set location (.file content)
    match filled with
    | .error cause =>
      .failed (.write destination cause) [.staging temporary] (staged.erase location)
    | .ok size =>
      match refusable faults.replace (staged.rename location destination) with
      | .error cause =>
        .failed (.write destination (.replace cause)) [.staging temporary] (staged.erase location)
      | .ok replaced => ⟨.ok size, [.staging temporary], replaced⟩

/-- Write an artifact to a destination where only the tree decides. -/
def write : Artifact → String → FileTree → Outcome Nat := writeWith .none

end Artifact

end FactoryOverloads
