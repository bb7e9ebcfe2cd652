/-!
# Tokens

What a YAML text consists of once indentation and simple keys are made explicit. The end of the
text is the end of the token list.

A tag is a sequence of bytes, since its written form may escape any byte. A local tag begins with
an exclamation mark, and what follows names a variant.
-/

namespace FactoryOverloads.Yaml

/-- The full form of a tag, handle resolved and escapes read. -/
structure Tag where
  bytes : List UInt8
  deriving DecidableEq, Repr

namespace Tag

/-- The tag a text spells. -/
def ofString (text : String) : Tag := ⟨text.toUTF8.toList⟩

/-- The tag alone on its own: an exclamation mark and nothing else. -/
def plain : Tag := ofString "!"

/-- Whether the tag begins with an exclamation mark. -/
def isLocal (tag : Tag) : Bool := tag.bytes.head? == some 0x21

/-- The name of a local tag: what follows the exclamation mark, or that mark if nothing does. -/
def name? (tag : Tag) : Option String :=
  match tag.bytes with
  | 0x21 :: [] => some "!"
  | 0x21 :: name => String.fromUTF8? ⟨name.toArray⟩
  | _ => none

/-- The tags of the core schema share this beginning. -/
def coreBeginning : Tag := ofString "tag:yaml.org,2002:"

/-- A tag of the core schema. -/
def core (name : String) : Tag := ⟨coreBeginning.bytes ++ (ofString name).bytes⟩

end Tag

/-- A token. -/
inductive Token where
  | versionDirective (major minor : Nat)
  | tagDirective (handle : String) (expansion : Tag)
  | documentStart
  | documentEnd
  | blockSequenceStart
  | blockMappingStart
  | blockEnd
  | flowSequenceStart
  | flowSequenceEnd
  | flowMappingStart
  | flowMappingEnd
  | blockEntry
  | flowEntry
  | key
  | value
  | alias (name : String)
  | anchor (name : String)
  | tag (handle : String) (suffix : Tag)
  | scalar (text : String) (isPlain : Bool)
  deriving DecidableEq, Repr

end FactoryOverloads.Yaml
