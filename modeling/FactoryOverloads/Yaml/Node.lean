import FactoryOverloads.Yaml.Problem
import FactoryOverloads.Yaml.Token

/-!
# Nodes of a YAML document

`Node.ofTokens` reads the tokens of a text as at most one document. The grammar is followed by one
function per construct; each takes the tokens from the construct on and returns those after it.
Handles are resolved on the way, aliases are not.
-/

namespace FactoryOverloads.Yaml

/-- A node of a document. -/
inductive Node where
  | scalar (anchor : Option String) (tag : Option Tag) (text : String) (isPlain : Bool)
  | sequence (anchor : Option String) (tag : Option Tag) (items : List Node)
  | mapping (anchor : Option String) (tag : Option Tag) (entries : List (Node × Node))
  | alias (name : String)

namespace Node

/-- The node that stands where nothing is written. -/
def empty : Node := .scalar none none "" true

/-- What the tag handles of a document stand for. -/
abbrev Handles := List (String × Tag)

/-- The handles every document has. -/
def defaultHandles : Handles := [("!", Tag.plain), ("!!", Tag.coreBeginning)]

/-- The full form of a written tag. -/
def resolveTag (handles : Handles) (handle : String) (suffix : Tag) : Except Problem Tag :=
  if handle.isEmpty then .ok suffix
  else
    match handles.lookup handle with
    | some expansion => .ok ⟨expansion.bytes ++ suffix.bytes⟩
    | none => .error .undefinedHandle

/-- The anchor and the tag before a node, in either order, and the tokens after them. -/
def properties (handles : Handles) : List Token →
    Except Problem (Option String × Option Tag × List Token)
  | .anchor name :: .tag handle suffix :: rest => do
    pure (some name, some (← resolveTag handles handle suffix), rest)
  | .tag handle suffix :: .anchor name :: rest => do
    pure (some name, some (← resolveTag handles handle suffix), rest)
  | .anchor name :: rest => .ok (some name, none, rest)
  | .tag handle suffix :: rest => do pure (none, some (← resolveTag handles handle suffix), rest)
  | rest => .ok (none, none, rest)

/-- Where a node stands, which decides what it may be. -/
inductive Place where
  /-- Inside brackets. -/
  | flow
  /-- An item of a block sequence, or the whole document. -/
  | block
  /-- A key or value of a block mapping, where a sequence needs no deeper indentation. -/
  | blockEntry
  deriving DecidableEq

/-- Whether a token shows that nothing is written for an item of a block. -/
def endsBlockItem : List Token → Bool
  | [] => false
  | .blockEntry :: _ => true
  | .blockEnd :: _ => true
  | _ => false

/-- Whether a token shows that nothing is written for an item of a sequence that shares the
indentation of its mapping. -/
def endsSharedItem : List Token → Bool
  | .blockEntry :: _ => true
  | .key :: _ => true
  | .value :: _ => true
  | .blockEnd :: _ => true
  | _ => false

/-- Whether a token shows that nothing is written for a part of a block mapping. -/
def endsBlockPart : List Token → Bool
  | .key :: _ => true
  | .value :: _ => true
  | .blockEnd :: _ => true
  | _ => false

/-- Whether a token shows that nothing is written for a part of a flow mapping. -/
def endsFlowPart (closing : Token) : List Token → Bool
  | .value :: _ => true
  | .flowEntry :: _ => true
  | token :: _ => token == closing
  | [] => false

mutual

/-- A node. The number of calls is bounded by `fuel`. -/
def parse (handles : Handles) : (fuel : Nat) → Place → List Token →
    Except Problem (Node × List Token)
  | 0, _, _ => .error .missingNode
  | fuel + 1, place, tokens =>
    match tokens with
    | .alias name :: rest => .ok (.alias name, rest)
    | _ => do
      let (anchor, tag, rest) ← properties handles tokens
      match place, rest with
      | .blockEntry, .blockEntry :: _ =>
        let (items, rest) ← parseSharedItems handles fuel [] rest
        pure (.sequence anchor tag items, rest)
      | _, .scalar text isPlain :: rest =>
        let tag := if tag == some Tag.plain then none else tag
        pure (.scalar anchor tag text isPlain, rest)
      | _, .flowSequenceStart :: rest =>
        let (items, rest) ← parseFlowItems handles fuel true [] rest
        pure (.sequence anchor tag items, rest)
      | _, .flowMappingStart :: rest =>
        let (entries, rest) ← parseFlowEntries handles fuel true [] rest
        pure (.mapping anchor tag entries, rest)
      | .flow, rest =>
        if anchor.isSome || tag.isSome then pure (.scalar anchor tag "" true, rest)
        else throw .missingNode
      | _, .blockSequenceStart :: rest =>
        let (items, rest) ← parseBlockItems handles fuel [] rest
        pure (.sequence anchor tag items, rest)
      | _, .blockMappingStart :: rest =>
        let (entries, rest) ← parseBlockEntries handles fuel [] rest
        pure (.mapping anchor tag entries, rest)
      | _, rest =>
        if anchor.isSome || tag.isSome then pure (.scalar anchor tag "" true, rest)
        else throw .missingNode

/-- The items of a block sequence, up to and with its end; `done` holds those before, last one
first. -/
def parseBlockItems (handles : Handles) : (fuel : Nat) → (done : List Node) → List Token →
    Except Problem (List Node × List Token)
  | 0, _, _ => .error .missingIndicator
  | fuel + 1, done, tokens =>
    match tokens with
    | .blockEntry :: rest =>
      if endsBlockItem rest then parseBlockItems handles fuel (empty :: done) rest
      else do
        let (item, rest) ← parse handles fuel .block rest
        parseBlockItems handles fuel (item :: done) rest
    | .blockEnd :: rest => .ok (done.reverse, rest)
    | _ => .error .missingIndicator

/-- The items of a sequence that shares the indentation of its mapping. -/
def parseSharedItems (handles : Handles) : (fuel : Nat) → (done : List Node) → List Token →
    Except Problem (List Node × List Token)
  | 0, _, _ => .error .missingIndicator
  | fuel + 1, done, tokens =>
    match tokens with
    | .blockEntry :: rest =>
      if endsSharedItem rest then parseSharedItems handles fuel (empty :: done) rest
      else do
        let (item, rest) ← parse handles fuel .block rest
        parseSharedItems handles fuel (item :: done) rest
    | rest => .ok (done.reverse, rest)

/-- The entries of a block mapping, up to and with its end. -/
def parseBlockEntries (handles : Handles) : (fuel : Nat) → (done : List (Node × Node)) →
    List Token → Except Problem (List (Node × Node) × List Token)
  | 0, _, _ => .error .missingIndicator
  | fuel + 1, done, tokens =>
    match tokens with
    | .key :: rest => do
      let (key, rest) ← parseBlockPart handles fuel rest
      match rest with
      | .value :: rest =>
        let (value, rest) ← parseBlockPart handles fuel rest
        parseBlockEntries handles fuel ((key, value) :: done) rest
      | rest => parseBlockEntries handles fuel ((key, empty) :: done) rest
    | .blockEnd :: rest => .ok (done.reverse, rest)
    | _ => .error .missingIndicator

/-- A key or a value of a block mapping, which may be left out. -/
def parseBlockPart (handles : Handles) : (fuel : Nat) → List Token →
    Except Problem (Node × List Token)
  | 0, _ => .error .missingNode
  | fuel + 1, tokens =>
    if endsBlockPart tokens then .ok (empty, tokens) else parse handles fuel .blockEntry tokens

/-- The items of a flow sequence, up to and with its bracket. An item may be a single pair. -/
def parseFlowItems (handles : Handles) : (fuel : Nat) → (isFirst : Bool) → (done : List Node) →
    List Token → Except Problem (List Node × List Token)
  | 0, _, _, _ => .error .missingIndicator
  | fuel + 1, isFirst, done, tokens =>
    match isFirst, tokens with
    | _, .flowSequenceEnd :: rest => .ok (done.reverse, rest)
    | false, .flowEntry :: .flowSequenceEnd :: rest => .ok (done.reverse, rest)
    | false, .flowEntry :: rest => do
      let (item, rest) ← parseFlowItem handles fuel rest
      parseFlowItems handles fuel false (item :: done) rest
    | false, _ => .error .missingIndicator
    | true, rest => do
      let (item, rest) ← parseFlowItem handles fuel rest
      parseFlowItems handles fuel false (item :: done) rest

/-- An item of a flow sequence. The token after a left-out key is passed over. -/
def parseFlowItem (handles : Handles) : (fuel : Nat) → List Token →
    Except Problem (Node × List Token)
  | 0, _ => .error .missingNode
  | fuel + 1, tokens =>
    match tokens with
    | .key :: rest => do
      let (key, rest) ←
        if endsFlowPart .flowSequenceEnd rest then pure (empty, rest.drop 1)
        else parse handles fuel .flow rest
      let (value, rest) ← parseFlowValue handles fuel .flowSequenceEnd rest
      pure (.mapping none none [(key, value)], rest)
    | tokens => parse handles fuel .flow tokens

/-- The value of a pair inside brackets, which may be left out with or without its colon. -/
def parseFlowValue (handles : Handles) : (fuel : Nat) → (closing : Token) → List Token →
    Except Problem (Node × List Token)
  | 0, _, _ => .error .missingNode
  | fuel + 1, closing, tokens =>
    match tokens with
    | .value :: .flowEntry :: rest => .ok (empty, .flowEntry :: rest)
    | .value :: token :: rest =>
      if token == closing then .ok (empty, token :: rest)
      else parse handles fuel .flow (token :: rest)
    | .value :: [] => .error .missingNode
    | tokens => .ok (empty, tokens)

/-- The entries of a flow mapping, up to and with its bracket. -/
def parseFlowEntries (handles : Handles) : (fuel : Nat) → (isFirst : Bool) →
    (done : List (Node × Node)) → List Token → Except Problem (List (Node × Node) × List Token)
  | 0, _, _, _ => .error .missingIndicator
  | fuel + 1, isFirst, done, tokens =>
    match isFirst, tokens with
    | _, .flowMappingEnd :: rest => .ok (done.reverse, rest)
    | false, .flowEntry :: .flowMappingEnd :: rest => .ok (done.reverse, rest)
    | false, .flowEntry :: rest => do
      let (entry, rest) ← parseFlowPair handles fuel rest
      parseFlowEntries handles fuel false (entry :: done) rest
    | false, _ => .error .missingIndicator
    | true, rest => do
      let (entry, rest) ← parseFlowPair handles fuel rest
      parseFlowEntries handles fuel false (entry :: done) rest

/-- A pair of a flow mapping, or a key alone. -/
def parseFlowPair (handles : Handles) : (fuel : Nat) → List Token →
    Except Problem ((Node × Node) × List Token)
  | 0, _ => .error .missingNode
  | fuel + 1, tokens =>
    match tokens with
    | .key :: rest => do
      let (key, rest) ←
        if endsFlowPart .flowMappingEnd rest then pure (empty, rest)
        else parse handles fuel .flow rest
      let (value, rest) ← parseFlowValue handles fuel .flowMappingEnd rest
      pure ((key, value), rest)
    | tokens => do
      let (key, rest) ← parse handles fuel .flow tokens
      pure ((key, empty), rest)

end

/-- Whether a token ends a document that has no content. -/
def endsDocument : List Token → Bool
  | [] => true
  | .versionDirective _ _ :: _ => true
  | .tagDirective _ _ :: _ => true
  | .documentStart :: _ => true
  | .documentEnd :: _ => true
  | _ => false

/-- The handles that the directives of a document add, and the tokens after its start. At most one
version may be stated, and no handle twice. -/
def directives (hasVersion : Bool) (handles : Handles) : List Token →
    Except Problem (Handles × List Token)
  | .versionDirective major minor :: rest =>
    if hasVersion || major != 1 || (minor != 1 && minor != 2) then .error .version
    else directives true handles rest
  | .tagDirective handle expansion :: rest =>
    if handles.any (·.1 == handle) then .error .directive
    else directives hasVersion ((handle, expansion) :: handles) rest
  | .documentStart :: rest => .ok (handles, rest)
  | _ => .error .missingIndicator

/-- The content of a document after its start, and the tokens after it. -/
def content (handles : Handles) (tokens : List Token) : Except Problem (Node × List Token) :=
  if endsDocument tokens then .ok (empty, tokens)
  else parse (handles ++ defaultHandles) (4 * tokens.length + 4) .block tokens

/-- Whether a token is a document's end. -/
def isDocumentEnd : Token → Bool
  | .documentEnd => true
  | _ => false

/-- The document of a text, absent if the text has no content. A second document is refused. -/
def ofTokens (tokens : List Token) : Except Problem (Option Node) := do
  if tokens.isEmpty then return none
  let (node, rest) ←
    match tokens with
    | .versionDirective _ _ :: _ | .tagDirective _ _ :: _ | .documentStart :: _ => do
      let (handles, rest) ← directives false [] tokens
      content handles rest
    | _ => parse defaultHandles (4 * tokens.length + 4) .block tokens
  if (rest.dropWhile isDocumentEnd).isEmpty then pure (some node) else throw .severalDocuments

end Node

end FactoryOverloads.Yaml
