import FactoryOverloads.Failure

/-!
# Templates

A template is a text with placeholders: a dollar sign and a name in braces, where a name begins with
a letter or an underscore and goes on with letters, digits and underscores, all of them ASCII.
Everything else in a template stands for itself.

- `Template.segments` reads a template from left to right.
- `Template.render` puts the bound texts in place of the placeholders. A text that has been put in
  is not read again.
- `Template.placeholders` lists the names a template asks for.
-/

namespace FactoryOverloads

/-- Texts bound to names. The first entry of a name counts. -/
structure Bindings where
  entries : List (String × String)
  deriving DecidableEq, Repr

/-- The text bound to a name. -/
def Bindings.find? (bindings : Bindings) (name : String) : Option String :=
  bindings.entries.lookup name

namespace Template

/-- A piece of a template. -/
inductive Segment where
  /-- A character that stands for itself. -/
  | character (c : Char)
  /-- A name that a text is to be put in place of. -/
  | placeholder (name : String)
  deriving DecidableEq, Repr

/-- The name of a placeholder. -/
def Segment.name? : Segment → Option String
  | .character _ => none
  | .placeholder name => some name

/-- Whether a name can begin with the character. -/
def isNameStart (c : Char) : Bool := c.isAlpha || c == '_'

/-- Whether a name can go on with the character. -/
def isNameCharacter (c : Char) : Bool := c.isAlphanum || c == '_'

/-- Whether the characters spell a name. -/
def isName : List Char → Bool
  | [] => false
  | c :: cs => isNameStart c && cs.all isNameCharacter

/-- The name of the placeholder that the characters begin with. -/
def placeholderName? : List Char → Option (List Char)
  | '$' :: '{' :: rest =>
    let name := rest.takeWhile isNameCharacter
    if isName name && rest[name.length]? == some '}' then some name else none
  | _ => none

/-- The segments of the characters after the first `skip` of them, which belong to a placeholder
that has been read. -/
def segmentsAfter : (skip : Nat) → List Char → List Segment
  | _, [] => []
  | skip + 1, _ :: rest => segmentsAfter skip rest
  | 0, c :: rest =>
    match placeholderName? (c :: rest) with
    | some name => .placeholder (String.ofList name) :: segmentsAfter (name.length + 2) rest
    | none => .character c :: segmentsAfter 0 rest

/-- The segments of a template. -/
def segments (template : String) : List Segment := segmentsAfter 0 template.toList

/-- A text with what a segment stands for at its end. -/
def append (bindings : Bindings) (text : String) : Segment → Except TemplateError String
  | .character c => .ok (text.push c)
  | .placeholder name =>
    match bindings.find? name with
    | some value => .ok (text ++ value)
    | none => .error (.unbound name)

/-- The template with the bound texts in place of its placeholders. The first placeholder without a
binding is an error. -/
def render (template : String) (bindings : Bindings) : Except TemplateError String :=
  (segments template).foldlM (append bindings) ""

/-- The names of the placeholders, each once, in the order of their first occurrence. -/
def placeholders (template : String) : List String :=
  ((segments template).filterMap Segment.name?).eraseDups

end Template

end FactoryOverloads
