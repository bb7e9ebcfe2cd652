import FactoryOverloads.Yaml.Character
import FactoryOverloads.Yaml.Problem

/-!
# Scalars in a YAML text

Each of the four written forms of a scalar is read by one function that returns its text and the
cursor after it: `plainScalar`, `singleQuoted`, `doubleQuoted` and `blockScalar`. Breaks inside a
scalar are folded: one break becomes a space, further ones are kept.
-/

namespace FactoryOverloads.Yaml

/-! ## Folding -/

/-- The gap a scalar has passed since its last other character. -/
inductive Gap where
  /-- Blanks within a line, the last one first. -/
  | blanks (reversed : List Char)
  /-- Breaks: the first one, absent if it was escaped, and those that follow, the last one
  first. -/
  | breaks (first : Option Char) (reversed : List Char)

namespace Gap

/-- No gap. -/
def none : Gap := .blanks []

/-- The gap with one more blank, which counts only within a line. -/
def addBlank (c : Char) : Gap → Gap
  | .blanks reversed => .blanks (c :: reversed)
  | .breaks first reversed => .breaks first reversed

/-- The gap with one more break, which drops the blanks before it. -/
def addBreak (c : Char) : Gap → Gap
  | .blanks _ => .breaks (some c) []
  | .breaks first reversed => .breaks first (c :: reversed)

/-- Whether the gap holds a break. -/
def hasBreak : Gap → Bool
  | .blanks _ => false
  | .breaks _ _ => true

/-- The text a gap stands for, the last character first: a single line feed becomes a space, and
before further breaks it vanishes. -/
def folded : Gap → List Char
  | .blanks reversed => reversed
  | .breaks (some '\n') [] => [' ']
  | .breaks (some '\n') reversed => reversed
  | .breaks first reversed => reversed ++ first.toList

end Gap

/-! ## Plain scalars -/

/-- Whether a character ends a plain scalar inside brackets. -/
def isFlowIndicator (c : Char) : Bool :=
  c == ',' || c == '[' || c == ']' || c == '{' || c == '}'

/-- What a plain scalar is read into. -/
structure PlainScalar where
  text : String
  /-- Whether a break was passed after the scalar, so that a key may follow. -/
  endsLine : Bool
  cursor : Cursor

/-- The scalar that ends at a cursor, when `read` has been read of it (last character first) and a
gap since. -/
def PlainScalar.ended (read : List Char) (gap : Gap) (cursor : Cursor) : PlainScalar :=
  ⟨String.ofList read.reverse, gap.hasBreak, cursor⟩

/-- A plain scalar from its first character on, when the text read so far is `read` (last character
first). In block context its lines are indented by at least `indent`. -/
def plainScalarFrom (inFlow : Bool) (indent : Nat) (read : List Char) (gap : Gap) (inGap : Bool)
    (mark : Mark) : List Char → Except Problem PlainScalar
  | [] => .ok (.ended read gap ⟨[], mark⟩)
  | c :: rest =>
    if isBreak c then
      plainScalarFrom inFlow indent read (gap.addBreak c) true (mark.after c) rest
    else if isBlank c then
      if gap.hasBreak && mark.column < indent && c == '\t' then .error .misplacedTab
      else plainScalarFrom inFlow indent read (gap.addBlank c) true (mark.after c) rest
    else if inGap && ((!inFlow && mark.column < indent) || c == '#' ||
        (mark.column == 0 && startsWithDocumentMarker (c :: rest))) then
      .ok (.ended read gap ⟨c :: rest, mark⟩)
    else if inFlow && c == ':' && rest.head?.any (fun d => d == '?' || isFlowIndicator d) then
      .error .unexpectedColon
    else if (c == ':' && startsWithGap rest) || (inFlow && isFlowIndicator c) then
      .ok (.ended read gap ⟨c :: rest, mark⟩)
    else
      plainScalarFrom inFlow indent (c :: (gap.folded ++ read)) .none false (mark.after c) rest

/-- The plain scalar at a cursor. -/
def plainScalar (inFlow : Bool) (indent : Nat) (cursor : Cursor) : Except Problem PlainScalar :=
  plainScalarFrom inFlow indent [] .none false cursor.mark cursor.rest

/-! ## Quoted scalars -/

/-- Whether a text may not occur inside quotes at a place: a document marker at a line's start. -/
def endsQuoted (mark : Mark) (text : List Char) : Bool :=
  mark.column == 0 && startsWithDocumentMarker text

/-- The rest of a single-quoted scalar. -/
def singleQuotedFrom (read : List Char) (gap : Gap) (inGap : Bool) (mark : Mark) :
    List Char → Except Problem (String × Cursor)
  | [] => .error .unclosedScalar
  | c :: rest =>
    if isBreak c then singleQuotedFrom read (gap.addBreak c) true (mark.after c) rest
    else if isBlank c then singleQuotedFrom read (gap.addBlank c) true (mark.after c) rest
    else if inGap && endsQuoted mark (c :: rest) then .error .unclosedScalar
    else
      match c, rest with
      | '\'', '\'' :: rest =>
        singleQuotedFrom ('\'' :: (gap.folded ++ read)) .none false
          ((mark.after '\'').after '\'') rest
      | '\'', rest =>
        .ok (String.ofList (gap.folded ++ read).reverse, ⟨rest, mark.after '\''⟩)
      | c, rest => singleQuotedFrom (c :: (gap.folded ++ read)) .none false (mark.after c) rest

/-- The single-quoted scalar whose opening quote is at a cursor. -/
def singleQuoted (cursor : Cursor) : Except Problem (String × Cursor) :=
  singleQuotedFrom [] .none false cursor.next.mark cursor.next.rest

/-- The character a one-letter escape stands for. -/
def simpleEscape? (c : Char) : Option Char :=
  match c with
  | '0' => some '\x00'
  | 'a' => some '\x07'
  | 'b' => some '\x08'
  | 't' => some '\t'
  | '\t' => some '\t'
  | 'n' => some '\n'
  | 'v' => some '\x0b'
  | 'f' => some '\x0c'
  | 'r' => some '\r'
  | 'e' => some '\x1b'
  | ' ' => some ' '
  | '"' => some '"'
  | '/' => some '/'
  | '\\' => some '\\'
  | 'N' => some '\x85'
  | '_' => some '\xa0'
  | 'L' => some '\u2028'
  | 'P' => some '\u2029'
  | _ => none

/-- The number of digits that follow the letter of a numeric escape. -/
def escapeDigits? (c : Char) : Option Nat :=
  match c with
  | 'x' => some 2
  | 'u' => some 4
  | 'U' => some 8
  | _ => none

/-- Where the reading of a double-quoted scalar stands within an escape. -/
inductive Escape where
  | outside
  /-- A backslash has been read. -/
  | opened
  /-- So many hexadecimal digits are missing from a number. -/
  | digits (missing number : Nat)

/-- The rest of a double-quoted scalar. -/
def doubleQuotedFrom (read : List Char) (gap : Gap) (inGap : Bool) (escape : Escape)
    (mark : Mark) : List Char → Except Problem (String × Cursor)
  | [] => .error .unclosedScalar
  | c :: rest =>
    match escape with
    | .outside =>
      if isBreak c then doubleQuotedFrom read (gap.addBreak c) true .outside (mark.after c) rest
      else if isBlank c then
        doubleQuotedFrom read (gap.addBlank c) true .outside (mark.after c) rest
      else if inGap && endsQuoted mark (c :: rest) then .error .unclosedScalar
      else if c == '"' then
        .ok (String.ofList (gap.folded ++ read).reverse, ⟨rest, mark.after c⟩)
      else if c == '\\' then
        doubleQuotedFrom (gap.folded ++ read) .none false .opened (mark.after c) rest
      else
        doubleQuotedFrom (c :: (gap.folded ++ read)) .none false .outside (mark.after c) rest
    | .opened =>
      if isBreak c then
        doubleQuotedFrom read (.breaks none []) true .outside (mark.after c) rest
      else
        match simpleEscape? c, escapeDigits? c with
        | some d, _ => doubleQuotedFrom (d :: read) .none false .outside (mark.after c) rest
        | none, some n =>
          doubleQuotedFrom read .none false (.digits n 0) (mark.after c) rest
        | none, none => .error .unknownEscape
    | .digits missing number =>
      match hexValue? c with
      | none => .error .invalidEscape
      | some digit =>
        let number := 16 * number + digit
        if 1 < missing then
          doubleQuotedFrom read .none false (.digits (missing - 1) number) (mark.after c) rest
        else if number.isValidChar then
          doubleQuotedFrom (Char.ofNat number :: read) .none false .outside (mark.after c) rest
        else .error .invalidEscape

/-- The double-quoted scalar whose opening quote is at a cursor. -/
def doubleQuoted (cursor : Cursor) : Except Problem (String × Cursor) :=
  doubleQuotedFrom [] .none false .outside cursor.next.mark cursor.next.rest

/-! ## Block scalars -/

/-- What happens to the breaks at the end of a block scalar. -/
inductive Chomping where
  /-- They are dropped. -/
  | strip
  /-- The first one stays. -/
  | clip
  /-- They all stay. -/
  | keep

/-- The mark of a chomping indicator. -/
def Chomping.ofChar? : Char → Option Chomping
  | '+' => some .keep
  | '-' => some .strip
  | _ => none

/-- The header of a block scalar after its indicator: chomping and the stated indentation, in
either order. -/
def blockHeader (cursor : Cursor) : Except Problem (Chomping × Option Nat × Cursor) :=
  let chomp (cursor : Cursor) : Option Chomping := cursor.rest.head?.bind Chomping.ofChar?
  let digit (cursor : Cursor) : Option Nat :=
    (cursor.rest.head?.filter Char.isDigit).map fun c => c.toNat - '0'.toNat
  let checked (indent : Nat) (found : Chomping × Option Nat × Cursor) :
      Except Problem (Chomping × Option Nat × Cursor) :=
    if indent = 0 then .error .blockHeader else .ok found
  match chomp cursor, digit cursor with
  | some chomping, _ =>
    match digit cursor.next with
    | some indent => checked indent (chomping, some indent, cursor.next.next)
    | none => .ok (chomping, none, cursor.next)
  | none, some indent =>
    match chomp cursor.next with
    | some chomping => checked indent (chomping, some indent, cursor.next.next)
    | none => checked indent (.clip, some indent, cursor.next)
  | none, none => .ok (.clip, none, cursor)

/-- The rest of a line with a comment, up to and with its break. -/
def endOfLine (problem : Problem) (cursor : Cursor) : Except Problem Cursor :=
  let cursor := cursor.skipBlanks
  let cursor := if cursor.rest.head? == some '#' then cursor.skipLine else cursor
  match cursor.rest with
  | [] => .ok cursor
  | c :: _ => if isBreak c then .ok cursor.next else .error problem

/-- The indentation of a block scalar that states none: that of its deepest leading blank line or
of its first other line. -/
def detectIndent (deepest : Nat) (text : List Char) : Except Problem Nat :=
  let spaces := text.takeWhile (· == ' ')
  let deepest := max deepest spaces.length
  match _shape : text.dropWhile (· == ' ') with
  | [] => .ok deepest
  | c :: rest =>
    if c == '\t' then .error .misplacedTab
    else if isBreak c then detectIndent deepest rest
    else .ok deepest
termination_by text.length
decreasing_by
  have bound := (List.dropWhile_sublist (l := text) (· == ' ')).length_le
  rw [_shape] at bound
  simp only [List.length_cons] at bound
  omega

/-- What a block scalar has read: its text (last character first), the break of its last line, the
breaks of the blank lines since (last one first), and whether that line began with a blank. -/
structure BlockText where
  read : List Char
  lineBreak : Option Char
  blankBreaks : List Char
  beginsBlank : Bool

namespace BlockText

/-- Nothing read. -/
def empty : BlockText := ⟨[], none, [], false⟩

/-- The text with one more line. The break before it is kept in a literal scalar and beside a line
that begins with a blank; otherwise it folds. -/
def addLine (isLiteral : Bool) (line : List Char) (lineBreak : Option Char) (t : BlockText) :
    BlockText :=
  let beginsBlank := line.head?.any isBlank
  let folds := !isLiteral && t.lineBreak == some '\n' && !t.beginsBlank && !beginsBlank
  let join := if folds then (if t.blankBreaks.isEmpty then [' '] else []) else t.lineBreak.toList
  ⟨line.reverse ++ (t.blankBreaks ++ (join ++ t.read)), lineBreak, [], beginsBlank⟩

/-- The text of the scalar once its last line has been read. -/
def finish (chomping : Chomping) (t : BlockText) : String :=
  let tail :=
    match chomping with
    | .strip => []
    | .clip => t.lineBreak.toList
    | .keep => t.blankBreaks ++ t.lineBreak.toList
  String.ofList (tail ++ t.read).reverse

end BlockText

/-- The lines of a block scalar from a line's start on. The scalar ends before the first line that
is neither blank nor indented by `indent`. -/
def blockLines (isLiteral : Bool) (indent : Nat) (t : BlockText) (mark : Mark)
    (text : List Char) : Except Problem (BlockText × Cursor) :=
  let spaces := min indent (text.takeWhile (· == ' ')).length
  let body := text.drop spaces
  let line := body.takeWhile fun c => !isBreak c
  if spaces < indent && line.head? == some '\t' then .error .misplacedTab
  else if spaces < indent && !line.isEmpty then .ok (t, ⟨text, mark⟩)
  else
    match _shape : body.dropWhile fun c => !isBreak c with
    | [] =>
      let ended : Mark := { mark with column := mark.column + text.length }
      .ok (if line.isEmpty then t else t.addLine isLiteral line none, ⟨[], ended⟩)
    | c :: rest =>
      let mark : Mark := ⟨mark.index + spaces + line.length + 1, mark.line + 1, 0⟩
      let t :=
        if line.isEmpty then { t with blankBreaks := c :: t.blankBreaks }
        else t.addLine isLiteral line (some c)
      blockLines isLiteral indent t mark rest
termination_by text.length
decreasing_by
  have bound := (List.dropWhile_sublist (l := body) fun c => !isBreak c).length_le
  rw [_shape] at bound
  simp only [body, List.length_cons, List.length_drop] at bound
  omega

/-- The block scalar whose indicator is at a cursor, inside a block indented by `indent` (`none`
outside all blocks). -/
def blockScalar (isLiteral : Bool) (indent : Option Nat) (cursor : Cursor) :
    Except Problem (String × Cursor) := do
  let (chomping, stated, cursor) ← blockHeader cursor.next
  let cursor ← endOfLine .blockHeader cursor
  let least := (indent.map (· + 1)).getD 0
  let indent ←
    match stated with
    | some n => pure (indent.getD 0 + n)
    | none => (fun deepest => max 1 (max least deepest)) <$> detectIndent 0 cursor.rest
  let (t, cursor) ← blockLines isLiteral indent .empty cursor.mark cursor.rest
  pure (t.finish chomping, cursor)

end FactoryOverloads.Yaml
