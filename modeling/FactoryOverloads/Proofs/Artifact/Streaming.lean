import FactoryOverloads.Proofs.Artifact.Layout
import FactoryOverloads.Proofs.Artifact.Writing

/-!
# Streaming into a limited destination

The parts of an artifact are stored one after the other, until one does not fit. A
destination that has been given several pieces is in the state in which one piece, all
of them together, leaves it:

* `Sink.store_append`: storing goes on where the last piece ended, also where that was
  at the end of the room;
* `Sink.storeAll_eq`: the pieces that come too late would not have left a trace, by
  induction on the pieces, with the room that is left as the state.

Hence it does not matter where the room ends, between parts or inside of one, nor how
the text is divided into parts (`Artifact.writeTo_eq_take`), and neither does it matter
how the blocks have been brought into the artifact.
-/

namespace FactoryOverloads

namespace Sink

variable (sink : Sink)

/-- Storing takes room as far as there is room. -/
theorem room_store (bytes : List UInt8) :
    (sink.store bytes).room = sink.room - bytes.length := by
  simp only [room, store, List.length_append, List.length_take]
  omega

theorem store_nil : sink.store [] = sink := by
  simp [store]

theorem store_append (first second : List UInt8) :
    sink.store (first ++ second) = (sink.store first).store second := by
  have rest := sink.room_store first
  simp only [store, List.take_append, List.append_assoc] at rest ⊢
  rw [rest]

/-- What comes behind a piece that does not fit leaves no trace. -/
theorem store_append_of_room_lt {piece : List UInt8} (h : sink.room < piece.length)
    (rest : List UInt8) : sink.store (piece ++ rest) = sink.store piece := by
  have full : (sink.store piece).room = 0 := by
    rw [room_store]
    omega
  rw [store_append, store, full, List.take_zero, List.append_nil]

/-- Several pieces fit if all of them together do, and otherwise the room is filled
with their beginning. -/
theorem storeAll_eq (pieces : List (List UInt8)) :
    sink.storeAll pieces =
      (if pieces.flatten.length ≤ sink.room then .ok () else .error .shortWrite,
        sink.store pieces.flatten) := by
  induction pieces generalizing sink with
  | nil => simp [storeAll, store_nil]
  | cons piece pieces ih =>
    rw [storeAll, List.flatten_cons, List.length_append]
    split
    case isTrue fits =>
      have remaining : pieces.flatten.length ≤ (sink.store piece).room ↔
          piece.length + pieces.flatten.length ≤ sink.room := by
        rw [room_store]
        omega
      rw [ih, store_append]
      simp only [remaining]
    case isFalse excess =>
      rw [store_append_of_room_lt sink (Nat.not_le.mp excess), if_neg (by omega)]

end Sink

namespace Artifact

theorem flatten_parts (artifact : Artifact) :
    (artifact.parts.map utf8).flatten = artifact.bytes.data.toList := by
  show _ = utf8 (String.join artifact.parts)
  rw [utf8_join, List.flatMap_def]

theorem length_bytes (artifact : Artifact) :
    artifact.bytes.data.toList.length = artifact.bytes.size :=
  Array.length_toList

/-- The bytes of the whole text decide, wherever the parts of it end. -/
theorem writeTo_eq_take (artifact : Artifact) (capacity : Nat) :
    artifact.writeTo capacity =
      (if artifact.bytes.size ≤ capacity then .ok () else .error .shortWrite,
        ⟨capacity, artifact.bytes.data.toList.take (min capacity artifact.bytes.size)⟩) := by
  have whole : artifact.writeTo capacity =
      (Sink.mk capacity []).storeAll (artifact.parts.map utf8) := rfl
  have room : (Sink.mk capacity []).room = capacity := rfl
  have stored : (Sink.mk capacity []).store artifact.bytes.data.toList =
      ⟨capacity, artifact.bytes.data.toList.take (min capacity artifact.bytes.size)⟩ := by
    rw [Sink.store, room, ← length_bytes, ← List.take_eq_take_min]
    rfl
  rw [whole, Sink.storeAll_eq, flatten_parts, room, length_bytes, stored]

/-- A destination may run out of room inside of a character. -/
example : ((Artifact.mk "" [⟨none, "é"⟩, ⟨some "", ""⟩] "").writeTo 1).2 = ⟨1, [0xC3]⟩ := by
  decide +kernel

/-- Into a destination with room for a number of bytes, an artifact is streamed as the
first of its bytes, as many as there are and fit, and this fails exactly if not all of
them fit. In how many steps blocks are added changes nothing about an artifact. -/
theorem streaming_is_buffering :
    (∀ (artifact : Artifact) (capacity : Nat),
      (artifact.writeTo capacity).2.written =
        artifact.bytes.data.toList.take (min capacity artifact.bytes.size) ∧
      (artifact.writeTo capacity).1 =
        if artifact.bytes.size ≤ capacity then .ok () else .error .shortWrite) ∧
    ∀ (artifact : Artifact) (groups : List (List Block)),
      (groups.foldl extend artifact).parts = (artifact.extend groups.flatten).parts ∧
      (groups.foldl extend artifact).bytes = (artifact.extend groups.flatten).bytes ∧
      (groups.foldl extend artifact).size = artifact.size + groups.flatten.length := by
  refine ⟨fun artifact capacity => ?streamed, fun artifact groups => ?extended⟩
  case streamed =>
    rw [writeTo_eq_take]
    exact ⟨rfl, rfl⟩
  case extended =>
    have same : groups.foldl extend artifact = artifact.extend groups.flatten :=
      foldl_extend groups artifact
    have size : (artifact.extend groups.flatten).size =
        artifact.size + groups.flatten.length := List.length_append
    rw [same]
    exact ⟨rfl, rfl, size⟩

end Artifact

end FactoryOverloads
