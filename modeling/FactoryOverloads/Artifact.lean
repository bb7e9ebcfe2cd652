import FactoryOverloads.Failure

/-!
# Artifacts

An artifact is the generated source unit: a prologue, the declarations of all blocks, their
definitions, and an epilogue.

- `Artifact.text` and `Artifact.bytes` are the whole at once.
- `Artifact.streamed` is what a file holds that the parts are streamed into.
- `Artifact.writeTo` streams the parts into a destination that may run out of room.
-/

namespace FactoryOverloads

/-- The text of one overload. -/
structure Block where
  /-- What declares it ahead of its definition, for targets that need that. -/
  declaration : Option String
  definition : String
  deriving DecidableEq, Repr

/-- A generated source unit. -/
structure Artifact where
  prologue : String
  blocks : List Block
  epilogue : String
  deriving DecidableEq, Repr

/-- A destination that has room for a number of bytes. -/
structure Sink where
  capacity : Nat
  written : List UInt8
  deriving DecidableEq, Repr

namespace Sink

/-- The number of bytes that still fit. -/
def room (sink : Sink) : Nat := sink.capacity - sink.written.length

/-- The destination after bytes, as far as they fit. -/
def store (sink : Sink) (bytes : List UInt8) : Sink :=
  { sink with written := sink.written ++ bytes.take sink.room }

/-- The destination after pieces, one after the other, until one does not fit. -/
def storeAll (sink : Sink) : List (List UInt8) → Except Failure Unit × Sink
  | [] => (.ok (), sink)
  | piece :: pieces =>
    if piece.length ≤ sink.room then (sink.store piece).storeAll pieces
    else (.error .shortWrite, sink.store piece)

end Sink

namespace Artifact

/-- The artifact without blocks. -/
def frame (prologue epilogue : String) : Artifact := ⟨prologue, [], epilogue⟩

/-- The artifact with more blocks behind those it has. -/
def extend (artifact : Artifact) (blocks : List Block) : Artifact :=
  { artifact with blocks := artifact.blocks ++ blocks }

/-- The number of overloads. -/
def size (artifact : Artifact) : Nat := artifact.blocks.length

/-- Whether there are no overloads. -/
def isEmpty (artifact : Artifact) : Bool := artifact.blocks.isEmpty

/-- The declarations, in the order of the blocks. -/
def declarations (blocks : List Block) : List String := blocks.filterMap Block.declaration

/-- The definitions, in the order of the blocks. -/
def definitions (blocks : List Block) : List String := blocks.map Block.definition

/-- The pieces of the text in their order. -/
def parts (artifact : Artifact) : List String :=
  [artifact.prologue] ++ declarations artifact.blocks ++ definitions artifact.blocks ++
    [artifact.epilogue]

/-- The text. -/
def text (artifact : Artifact) : String := String.join artifact.parts

/-- The text in UTF-8. -/
def bytes (artifact : Artifact) : ByteArray := artifact.text.toUTF8

/-- The number of bytes of the text. -/
def byteCount (artifact : Artifact) : Nat := artifact.bytes.size

/-- The content of a file after the parts have been streamed into it, one after the other. -/
def streamed (artifact : Artifact) : ByteArray :=
  artifact.parts.foldl (fun content part => content ++ part.toUTF8) .empty

/-- What comes of streaming the parts into a destination with room for `capacity` bytes. -/
def writeTo (artifact : Artifact) (capacity : Nat) : Except Failure Unit × Sink :=
  (Sink.mk capacity []).storeAll (artifact.parts.map fun part => part.toUTF8.data.toList)

end Artifact

end FactoryOverloads
