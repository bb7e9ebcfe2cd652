import FactoryOverloads.Artifact.Write
import FactoryOverloads.Proofs.FileTree.Replacing

/-!
# What is written

The parts of an artifact that are streamed into a file, one after the other, make
the bytes that the artifact has as a whole (`streamed_eq_bytes`). Writing an
artifact either fails and leaves the tree as it was, at whichever step and for
whatever reason it fails (`writeWith_cases`), or puts these bytes in the place of
the destination and changes nothing else (`write_atomic`). It succeeds where the
tree takes a file and the system refuses nothing (`writeWith_of_takes`).
-/

namespace FactoryOverloads.Artifact

variable {tree : FileTree} {destination : String} {location : Location} {artifact : Artifact}
  {faults : Faults}

/-- Streaming goes on behind what has been streamed before. -/
theorem foldl_toUTF8 (parts : List String) (text : String) :
    parts.foldl (fun content part => content ++ part.toUTF8) text.toUTF8 =
      (text ++ String.join parts).toUTF8 := by
  induction parts generalizing text with
  | nil => simp
  | cons part parts ih =>
    have piece : text.toUTF8 ++ part.toUTF8 = (text ++ part).toUTF8 := by simp
    rw [List.foldl_cons, piece, ih, String.join_cons, String.append_assoc]

theorem streamed_eq_bytes (artifact : Artifact) : artifact.streamed = artifact.bytes := by
  have whole := foldl_toUTF8 artifact.parts ""
  rw [String.empty_append] at whole
  exact whole

/-! ## Steps that are refused -/

theorem refusable_eq_ok_iff {α : Type} {fault : Option OsError} {step : Except OsError α} {a : α} :
    refusable fault step = .ok a ↔ fault = none ∧ step = .ok a := by
  cases fault <;> simp [refusable]

theorem fill_none (artifact : Artifact) :
    artifact.fill .none = (artifact.bytes, .ok artifact.bytes.size) := by
  rw [← streamed_eq_bytes]
  rfl

/-- A temporary file with a size has been filled without a refusal. -/
theorem of_fill_eq_ok {size : Nat} (h : (artifact.fill faults).2 = .ok size) :
    faults.content = none ∧ faults.sync = none ∧ faults.size = none := by
  unfold fill at h
  split at h
  · cases h
  · cases h
  · cases h
  · next takes syncs sizes => exact ⟨takes, syncs, sizes⟩

/-! ## Writing -/

theorem writeWith_of_takes (artifact : Artifact) (h : tree.Takes destination location) :
    artifact.writeWith .none destination tree =
      ⟨.ok artifact.bytes.size, [.staging (tree.temporaryPath (Path.directory destination))],
        tree.set location (.file artifact.bytes)⟩ := by
  obtain ⟨source, staged⟩ := h.staged
  have created : refusable Faults.none.create
      (tree.locateTemporary (Path.directory destination)) = .ok source :=
    refusable_eq_ok_iff.mpr ⟨rfl, staged⟩
  have replaced : refusable Faults.none.replace
      ((tree.set source (.file artifact.bytes)).rename source destination) =
        .ok (tree.set location (.file artifact.bytes)) :=
    refusable_eq_ok_iff.mpr ⟨rfl, (FileTree.rename_eq_ok_iff staged).mpr ⟨location, h.placed, rfl⟩⟩
  unfold writeWith
  dsimp only
  rw [created, fill_none]
  dsimp only
  rw [replaced]

/-- A write in which a step fails, for whatever reason, leaves no trace: the temporary
file was new, so that removing it brings back the tree. No step fails only if the tree
takes a file, and the system refuses nothing. -/
theorem writeWith_cases (faults : Faults) (artifact : Artifact) (destination : String)
    (tree : FileTree) :
    (∃ cause records, artifact.writeWith faults destination tree =
      ⟨.error (.write destination cause), records, tree⟩) ∨
    faults = .none ∧ ∃ location, tree.Takes destination location := by
  unfold writeWith
  dsimp only
  cases created : refusable faults.create (tree.locateTemporary (Path.directory destination)) with
  | error cause => exact .inl ⟨_, _, rfl⟩
  | ok source =>
    obtain ⟨creates, staged⟩ := refusable_eq_ok_iff.mp created
    have undone (content : ByteArray) : (tree.set source (.file content)).erase source = tree :=
      FileTree.erase_set_of_fresh (FileTree.fresh_of_locateTemporary staged).2
    dsimp only
    rw [undone]
    cases filled : (artifact.fill faults).2 with
    | error cause => exact .inl ⟨_, _, rfl⟩
    | ok size =>
      dsimp only
      cases replaced : refusable faults.replace
          ((tree.set source (.file (artifact.fill faults).1)).rename source destination) with
      | error cause => exact .inl ⟨_, _, rfl⟩
      | ok after =>
        obtain ⟨replaces, renamed⟩ := refusable_eq_ok_iff.mp replaced
        obtain ⟨takes, syncs, sizes⟩ := of_fill_eq_ok filled
        obtain ⟨location, placed, -⟩ := (FileTree.rename_eq_ok_iff staged).mp renamed
        refine .inr ⟨?_, location, ⟨source, staged⟩, placed⟩
        obtain ⟨_, _, _, _, _⟩ := faults
        cases creates
        cases takes
        cases syncs
        cases sizes
        cases replaces
        rfl

theorem writeWith_eq_ok_iff (faults : Faults) (artifact : Artifact) (destination : String)
    (tree : FileTree) :
    (∃ size, (artifact.writeWith faults destination tree).result = .ok size) ↔
      faults = .none ∧ ∃ location, tree.Takes destination location := by
  constructor
  · rintro ⟨size, succeeded⟩
    refine (writeWith_cases faults artifact destination tree).resolve_left ?_
    rintro ⟨cause, records, failed⟩
    rw [failed] at succeeded
    cases succeeded
  · rintro ⟨rfl, location, takes⟩
    rw [artifact.writeWith_of_takes takes]
    exact ⟨_, rfl⟩

theorem write_eq_ok_iff (artifact : Artifact) (destination : String) (tree : FileTree) :
    (∃ size, (artifact.write destination tree).result = .ok size) ↔
      ∃ location, tree.Takes destination location :=
  (writeWith_eq_ok_iff .none artifact destination tree).trans (and_iff_right rfl)

/-- Whichever steps the system refuses, a write fails, with an error that names
the destination, and leaves the whole tree as it was, or it tells the size of the
artifact; then the destination holds the bytes of the artifact, and everywhere
else lies what lay there before. The second case is that of a tree that takes a
file, and of a system that refuses nothing. -/
theorem write_atomic (faults : Faults) (artifact : Artifact) (destination : String)
    (tree : FileTree) :
    ((∃ cause,
      (artifact.writeWith faults destination tree).result = .error (.write destination cause) ∧
        (artifact.writeWith faults destination tree).tree = tree) ∨
      (artifact.writeWith faults destination tree).result = .ok artifact.bytes.size ∧
        tree.Replaced destination artifact.bytes
          (artifact.writeWith faults destination tree).tree) ∧
    ((∃ size, (artifact.writeWith faults destination tree).result = .ok size) ↔
      faults = .none ∧ ∃ location, tree.Takes destination location) := by
  refine ⟨?_, writeWith_eq_ok_iff faults artifact destination tree⟩
  rcases writeWith_cases faults artifact destination tree with
    ⟨cause, records, failed⟩ | ⟨rfl, location, takes⟩
  · rw [failed]
    exact .inl ⟨cause, rfl, rfl⟩
  · rw [artifact.writeWith_of_takes takes]
    exact .inr ⟨rfl, FileTree.replaced_of_takes takes⟩

end FactoryOverloads.Artifact
