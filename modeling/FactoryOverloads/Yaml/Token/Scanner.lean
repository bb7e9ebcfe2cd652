import FactoryOverloads.Yaml.Token.Property
import FactoryOverloads.Yaml.Token.Scalar

/-!
# The tokens of a YAML text

`Token.scan` reads a text into its tokens. Indentation becomes explicit: a line that is indented
deeper opens a block, one that is indented less closes the blocks it leaves. Whether a node is a
key is known only at the colon after it; until then its place is remembered (`SimpleKey`), and the
key token, with the start of its block, is inserted there.
-/

namespace FactoryOverloads.Yaml

/-- A node that may turn out to be a key. -/
structure SimpleKey where
  /-- Whether only a key may stand here. -/
  isRequired : Bool
  /-- The number of tokens before the node. -/
  position : Nat
  mark : Mark

/-- A scan in progress. -/
structure Scanner where
  cursor : Cursor
  tokens : Array Token
  /-- The column of the innermost block, absent outside all blocks, and those around it. -/
  indent : Option Nat
  outerIndents : List (Option Nat)
  /-- Whether a key may begin here. -/
  keyAllowed : Bool
  /-- The possible key of the innermost pair of brackets and those of the pairs around it, the
  last one outside all brackets. -/
  simpleKey : Option SimpleKey
  outerKeys : List (Option SimpleKey)

namespace Scanner

/-- The scan of a whole text. -/
def start (text : List Char) : Scanner where
  cursor := ⟨text, ⟨0, 0, 0⟩⟩
  tokens := #[]
  indent := none
  outerIndents := []
  keyAllowed := true
  simpleKey := none
  outerKeys := []

/-- Whether the scan is inside brackets. -/
def inFlow (s : Scanner) : Bool := !s.outerKeys.isEmpty

/-- The column the scan is at. -/
def column (s : Scanner) : Nat := s.cursor.mark.column

/-- The scan with one more token. -/
def emit (token : Token) (s : Scanner) : Scanner := { s with tokens := s.tokens.push token }

/-- The scan with one more token that takes `length` characters. -/
def emitNext (length : Nat) (token : Token) (s : Scanner) : Scanner :=
  { s.emit token with cursor := s.cursor.skip length }

/-! ## Gaps and comments -/

/-- The cursor at the next token, and whether a key may begin there: after a break outside
brackets one may. Tabs are not skipped where they would indent. -/
def skipGap (inFlow : Bool) (inComment keyAllowed : Bool) (mark : Mark) :
    List Char → Bool × Cursor
  | [] => (keyAllowed, ⟨[], mark⟩)
  | c :: rest =>
    if isBreak c then skipGap inFlow false (keyAllowed || !inFlow) (mark.after c) rest
    else if inComment || c == ' ' || c == '#' || (c == '\t' && (inFlow || !keyAllowed)) ||
        (c == '\ufeff' && mark.column == 0) then
      skipGap inFlow (inComment || c == '#') keyAllowed (mark.after c) rest
    else (keyAllowed, ⟨c :: rest, mark⟩)

/-- The scan at the next token. -/
def toNextToken (s : Scanner) : Scanner :=
  let (keyAllowed, cursor) := skipGap s.inFlow false s.keyAllowed s.cursor.mark s.cursor.rest
  { s with keyAllowed := keyAllowed, cursor := cursor }

/-! ## Simple keys -/

/-- A possible key is given up, unless it has to be one. -/
def abandon (key : Option SimpleKey) : Except Problem (Option SimpleKey) :=
  if key.any SimpleKey.isRequired then .error .missingColon else .ok none

/-- A possible key of an earlier line, or more than 1024 characters back, is given up. -/
def refresh (mark : Mark) (key : Option SimpleKey) : Except Problem (Option SimpleKey) :=
  if key.any fun k => k.mark.line < mark.line || k.mark.index + 1024 < mark.index then abandon key
  else .ok key

/-- The possible keys that the current place leaves possible. -/
def refreshKeys (s : Scanner) : Except Problem Scanner := do
  let simpleKey ← refresh s.cursor.mark s.simpleKey
  let outerKeys ← s.outerKeys.mapM (refresh s.cursor.mark)
  pure { s with simpleKey := simpleKey, outerKeys := outerKeys }

/-- No node before this place is a key any more. -/
def dropKey (s : Scanner) : Except Problem Scanner := do
  pure { s with simpleKey := ← abandon s.simpleKey }

/-- The node that begins here may be a key, if one is allowed. -/
def markKey (s : Scanner) : Except Problem Scanner :=
  if s.keyAllowed then do
    let s ← s.dropKey
    let isRequired := !s.inFlow && s.indent == some s.column
    pure { s with simpleKey := some ⟨isRequired, s.tokens.size, s.cursor.mark⟩ }
  else .ok s

/-! ## Indentation -/

/-- Whether a column lies deeper than the innermost block. -/
def isDeeper (s : Scanner) (column : Nat) : Bool := s.indent.all (· < column)

/-- A block that begins at a column, its token standing before the token of a position. -/
def openBlock (column position : Nat) (token : Token) (s : Scanner) : Scanner :=
  if s.inFlow || !s.isDeeper column then s
  else
    { s with
      tokens := s.tokens.insertIdxIfInBounds position token
      indent := some column
      outerIndents := s.indent :: s.outerIndents }

/-- The tokens and the enclosing blocks after the end of the blocks that are deeper than a column
(`none`: of all blocks). -/
def closing (column : Option Nat) (tokens : Array Token) :
    Option Nat → List (Option Nat) → Array Token × Option Nat × List (Option Nat)
  | none, outer => (tokens, none, outer)
  | some indent, [] =>
    if column.all (· < indent) then (tokens.push .blockEnd, none, []) else (tokens, some indent, [])
  | some indent, next :: outer =>
    if column.all (· < indent) then closing column (tokens.push .blockEnd) next outer
    else (tokens, some indent, next :: outer)

/-- The scan after the end of the blocks that are deeper than a column. -/
def closeBlocks (column : Option Nat) (s : Scanner) : Scanner :=
  if s.inFlow then s
  else
    let (tokens, indent, outer) := closing column s.tokens s.indent s.outerIndents
    { s with tokens := tokens, indent := indent, outerIndents := outer }

/-! ## One token -/

/-- A directive or a document marker ends every block. -/
def endBlocks (s : Scanner) : Except Problem Scanner := do
  let s ← (s.closeBlocks none).dropKey
  pure { s with keyAllowed := false }

/-- A directive, at its percent sign. -/
def directive (s : Scanner) : Except Problem Scanner := do
  let s ← s.endBlocks
  let (name, after) := s.cursor.next.span isWord
  if !startsWithGap after.rest then throw .directive
  let (token, after) ←
    match String.ofList name with
    | "YAML" => versionDirective after
    | "TAG" => tagDirective after
    | _ => throw .directive
  let cursor ← endOfLine .directive after
  pure { s.emit token with cursor := cursor }

/-- An opening bracket. -/
def openFlow (token : Token) (s : Scanner) : Except Problem Scanner := do
  let s ← s.markKey
  let s := s.emitNext 1 token
  pure { s with simpleKey := none, outerKeys := s.simpleKey :: s.outerKeys, keyAllowed := true }

/-- A closing bracket. -/
def closeFlow (token : Token) (s : Scanner) : Except Problem Scanner := do
  let s ← s.dropKey
  let s := { s.emitNext 1 token with keyAllowed := false }
  match s.outerKeys with
  | [] => pure s
  | key :: outer => pure { s with simpleKey := key, outerKeys := outer }

/-- A comma inside brackets. -/
def flowEntry (s : Scanner) : Except Problem Scanner := do
  let s ← s.dropKey
  pure { s.emitNext 1 .flowEntry with keyAllowed := true }

/-- A hyphen before an item. -/
def blockEntry (s : Scanner) : Except Problem Scanner := do
  if !s.inFlow && !s.keyAllowed then throw .misplacedEntry
  let s ← (s.openBlock s.column s.tokens.size .blockSequenceStart).dropKey
  pure { s.emitNext 1 .blockEntry with keyAllowed := true }

/-- A question mark before a key. -/
def explicitKey (s : Scanner) : Except Problem Scanner := do
  if !s.inFlow && !s.keyAllowed then throw .misplacedKey
  let s ← (s.openBlock s.column s.tokens.size .blockMappingStart).dropKey
  pure { s.emitNext 1 .key with keyAllowed := !s.inFlow }

/-- A colon before a value. It turns the node before it into a key, if that is possible. -/
def value (s : Scanner) : Except Problem Scanner := do
  match s.simpleKey with
  | some key =>
    let s := { s with
      tokens := s.tokens.insertIdxIfInBounds key.position .key
      simpleKey := none
      keyAllowed := false }
    pure ((s.openBlock key.mark.column key.position .blockMappingStart).emitNext 1 .value)
  | none =>
    if !s.inFlow && !s.keyAllowed then throw .misplacedValue
    let s := s.openBlock s.column s.tokens.size .blockMappingStart
    pure { s.emitNext 1 .value with keyAllowed := !s.inFlow }

/-- A node or property that may begin a key. -/
def nodeStart (read : Cursor → Except Problem (Token × Cursor)) (s : Scanner) :
    Except Problem Scanner := do
  let s ← s.markKey
  let (token, cursor) ← read s.cursor
  pure { s.emit token with cursor := cursor, keyAllowed := false }

/-- A scalar with an indicator of its own, as a token. -/
def scalarToken (read : Except Problem (String × Cursor)) : Except Problem (Token × Cursor) :=
  read.map fun (text, cursor) => (.scalar text false, cursor)

/-- A block scalar, which is never a key. -/
def block (isLiteral : Bool) (s : Scanner) : Except Problem Scanner := do
  let s ← s.dropKey
  let (token, cursor) ← scalarToken (blockScalar isLiteral s.indent s.cursor)
  pure { s.emit token with cursor := cursor, keyAllowed := true }

/-- A plain scalar. -/
def plain (s : Scanner) : Except Problem Scanner := do
  let s ← s.markKey
  let indent := (s.indent.map (· + 1)).getD 0
  let scalar ← plainScalar s.inFlow indent s.cursor
  pure { s.emit (.scalar scalar.text true) with
    cursor := scalar.cursor
    keyAllowed := scalar.endsLine }

/-- Whether a plain scalar may begin with a character that is followed by a text. -/
def startsPlain (inFlow : Bool) (c : Char) (rest : List Char) : Bool :=
  if c == '-' then !rest.head?.any isBlank
  else if c == '?' || c == ':' then !inFlow && !startsWithGap rest
  else
    !(isGap c || isFlowIndicator c || c == '#' || c == '&' || c == '*' || c == '!' || c == '|' ||
      c == '>' || c == '\'' || c == '"' || c == '%' || c == '@' || c == '`')

/-- The token that begins with a character at the current place. -/
def token (c : Char) (rest : List Char) (s : Scanner) : Except Problem Scanner :=
  let atLineStart := s.column == 0
  if atLineStart && c == '%' then s.directive
  else if atLineStart && startsWithDocumentMarker (c :: rest) then
    (fun s => s.emitNext 3 (if c == '-' then .documentStart else .documentEnd)) <$> s.endBlocks
  else if c == '[' then s.openFlow .flowSequenceStart
  else if c == '{' then s.openFlow .flowMappingStart
  else if c == ']' then s.closeFlow .flowSequenceEnd
  else if c == '}' then s.closeFlow .flowMappingEnd
  else if c == ',' then s.flowEntry
  else if c == '-' && startsWithGap rest then s.blockEntry
  else if c == '?' && (s.inFlow || startsWithGap rest) then s.explicitKey
  else if c == ':' && (s.inFlow || startsWithGap rest) then s.value
  else if c == '*' then
    s.nodeStart fun cursor => (anchorName cursor).map fun (name, after) => (.alias name, after)
  else if c == '&' then
    s.nodeStart fun cursor => (anchorName cursor).map fun (name, after) => (.anchor name, after)
  else if c == '!' then s.nodeStart (tagToken s.inFlow)
  else if c == '|' && !s.inFlow then s.block true
  else if c == '>' && !s.inFlow then s.block false
  else if c == '\'' then s.nodeStart fun cursor => scalarToken (singleQuoted cursor)
  else if c == '"' then s.nodeStart fun cursor => scalarToken (doubleQuoted cursor)
  else if startsPlain s.inFlow c rest then s.plain
  else .error .unexpectedCharacter

/-- The scan after the whole text. Every token takes at least one character, so `fuel` has to
exceed the length of the text. -/
def run : (fuel : Nat) → Scanner → Except Problem Scanner
  | 0, _ => .error .unexpectedCharacter
  | fuel + 1, s => do
    let s ← s.toNextToken.refreshKeys
    let s := s.closeBlocks (some s.column)
    match s.cursor.rest with
    | [] => (s.closeBlocks none).dropKey
    | c :: rest => run fuel (← s.token c rest)

end Scanner

/-- The tokens of a text. -/
def Token.scan (text : String) : Except Problem (List Token) :=
  let characters := text.toList
  if characters.all isAllowed then
    let characters := unifyBreaks characters
    (fun s => s.tokens.toList) <$> (Scanner.start characters).run (characters.length + 1)
  else .error .controlCharacter

end FactoryOverloads.Yaml
