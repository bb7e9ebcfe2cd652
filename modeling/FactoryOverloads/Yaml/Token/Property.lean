import FactoryOverloads.Yaml.Character
import FactoryOverloads.Yaml.Problem
import FactoryOverloads.Yaml.Token

/-!
# Anchors, tags and directives in a YAML text

- `anchorName` reads the name of an anchor or an alias.
- `tagToken` reads a tag in one of its three forms: verbatim, with a handle, or local.
- `directiveToken` reads a version or handle directive with the rest of its line.
-/

namespace FactoryOverloads.Yaml

/-- The name after the indicator of an anchor or alias, and the cursor after it. -/
def anchorName (cursor : Cursor) : Except Problem (String × Cursor) :=
  let (name, after) := cursor.next.span isWord
  let ends := startsWithGap after.rest ||
    after.rest.head?.any fun c =>
      c == '?' || c == ':' || c == ',' || c == ']' || c == '}' || c == '%' || c == '@' || c == '`'
  if name.isEmpty || !ends then .error .anchorName else .ok (String.ofList name, after)

/-! ## Tags -/

/-- The characters of a tag. A verbatim tag may hold a comma and square brackets too. -/
def isTagCharacter (isVerbatim : Bool) (c : Char) : Bool :=
  isWord c || c == ';' || c == '/' || c == '?' || c == ':' || c == '@' || c == '&' || c == '=' ||
    c == '+' || c == '$' || c == '.' || c == '%' || c == '!' || c == '~' || c == '*' || c == '\'' ||
    c == '(' || c == ')' || (isVerbatim && (c == ',' || c == '[' || c == ']'))

/-- The length of the encoded character that begins with a byte. -/
def encodedLength? (byte : Nat) : Option Nat :=
  if byte < 0x80 then some 1
  else if 0xC0 ≤ byte && byte < 0xE0 then some 2
  else if 0xE0 ≤ byte && byte < 0xF0 then some 3
  else if 0xF0 ≤ byte && byte < 0xF8 then some 4
  else none

/-- The bytes of a tag's text. Of an escaped character that takes several bytes, `missing` are
still to come, all of them escaped. -/
def tagBytes (missing : Nat) : List Char → Except Problem (List UInt8)
  | [] => if missing = 0 then .ok [] else .error .tagName
  | '%' :: high :: low :: rest =>
    match hexValue? high, hexValue? low with
    | some high, some low =>
      let byte := 16 * high + low
      let after : Option Nat :=
        match missing with
        | 0 => (encodedLength? byte).map (· - 1)
        | missing + 1 => if 0x80 ≤ byte && byte < 0xC0 then some missing else none
      match after with
      | some missing => (UInt8.ofNat byte :: ·) <$> tagBytes missing rest
      | none => .error .tagName
    | _, _ => .error .tagName
  | c :: rest =>
    if c == '%' || missing != 0 then .error .tagName
    else (UInt8.ofNat c.toNat :: ·) <$> tagBytes 0 rest

/-- The text of a tag at a cursor, and the cursor after it. -/
def tagText (isVerbatim : Bool) (cursor : Cursor) : Except Problem (Tag × Cursor) := do
  let (text, after) := cursor.span (isTagCharacter isVerbatim)
  let bytes ← tagBytes 0 text
  pure (⟨bytes⟩, after)

/-- A handle at a cursor: an exclamation mark, a word, and a second mark if there is one. -/
def tagHandle (cursor : Cursor) : Except Problem (List Char × Cursor) :=
  match cursor.rest with
  | '!' :: _ =>
    let (word, after) := cursor.next.span isWord
    match after.rest with
    | '!' :: _ => .ok ('!' :: word ++ ['!'], after.next)
    | _ => .ok ('!' :: word, after)
  | _ => .error .tagName

/-- A verbatim tag, whose indicator and bracket are at a cursor. -/
def verbatimTag (cursor : Cursor) : Except Problem (Token × Cursor) := do
  let (suffix, after) ← tagText true (cursor.skip 2)
  if suffix.bytes.isEmpty then throw .tagName
  match after.rest with
  | '>' :: _ => pure (.tag "" suffix, after.next)
  | _ => throw .tagName

/-- A tag with a handle of two exclamation marks, or a local tag. -/
def shorthandTag (cursor : Cursor) : Except Problem (Token × Cursor) := do
  let (handle, after) ← tagHandle cursor
  if 1 < handle.length && handle.getLast? == some '!' then
    let (suffix, after) ← tagText false after
    if suffix.bytes.isEmpty then throw .tagName
    pure (.tag (String.ofList handle) suffix, after)
  else
    let (rest, after) ← tagText false after
    let suffix : Tag := ⟨(Tag.ofString (String.ofList (handle.drop 1))).bytes ++ rest.bytes⟩
    if suffix.bytes.isEmpty then pure (.tag "" Tag.plain, after)
    else pure (.tag "!" suffix, after)

/-- The tag at a cursor, which a gap has to follow, or a comma inside brackets. -/
def tagToken (inFlow : Bool) (cursor : Cursor) : Except Problem (Token × Cursor) := do
  let (token, after) ←
    match cursor.next.rest with
    | '<' :: _ => verbatimTag cursor
    | _ => shorthandTag cursor
  if startsWithGap after.rest || (inFlow && after.rest.head? == some ',') then pure (token, after)
  else throw .tagName

/-! ## Directives -/

/-- A number of at most nine digits. -/
def versionNumber (cursor : Cursor) : Except Problem (Nat × Cursor) :=
  let (digits, after) := cursor.span Char.isDigit
  if digits.isEmpty || 9 < digits.length then .error .directive
  else .ok (digits.foldl (fun n c => 10 * n + (c.toNat - '0'.toNat)) 0, after)

/-- The value of a version directive. -/
def versionDirective (cursor : Cursor) : Except Problem (Token × Cursor) := do
  let (major, after) ← versionNumber cursor.skipBlanks
  match after.rest with
  | '.' :: _ =>
    let (minor, after) ← versionNumber after.next
    pure (.versionDirective major minor, after)
  | _ => throw .directive

/-- The value of a handle directive: the handle and what it stands for. -/
def tagDirective (cursor : Cursor) : Except Problem (Token × Cursor) := do
  let (handle, after) ← tagHandle cursor.skipBlanks
  if handle.length != 1 && handle.getLast? != some '!' then throw .directive
  if !after.rest.head?.any isBlank then throw .directive
  let (expansion, after) ← tagText true after.skipBlanks
  if expansion.bytes.isEmpty || !startsWithGap after.rest then throw .directive
  pure (.tagDirective (String.ofList handle) expansion, after)

end FactoryOverloads.Yaml
