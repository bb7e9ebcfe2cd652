import FactoryOverloads.Log
import FactoryOverloads.Text

/-!
# Log filters

Which records are shown is told by a specification: directives with commas between them, and behind
a slash a pattern that the texts of shown records match. A directive is a level, the beginning of a
source, or both with an equals sign between them. The directive with the longest beginning of a
record's source decides.

Patterns are regular expressions, which a library reads and matches (`Search`). One that the library
does not understand is complained of and left out.

- `Filter.parse` reads a specification and complains about what it cannot read.
- `Filter.shows` decides about a record.
-/

namespace FactoryOverloads

namespace Level

/-- The level of a name, whose case does not matter; `off` is no level at all. -/
def threshold? (name : String) : Option (Option Level) :=
  if name.toLower = "off" then some none
  else (all.find? fun level => level.name.toLower == name.toLower).map some

end Level

/-- What is shown of a part of the program. -/
structure Directive where
  /-- The beginning of the sources concerned, absent for all of them. -/
  source : Option String
  /-- The least urgent level that is shown, absent for none at all. -/
  threshold : Option Level
  deriving DecidableEq, Repr

/-- How texts are searched: the texts that match a pattern, or why the pattern is not one. -/
abbrev Search := String → Except String (String → Bool)

/-- Which records are shown. -/
structure Filter where
  /-- The directives, those with the shortest beginnings first. -/
  directives : List Directive
  /-- Whether the text of a record is one of those that are shown. -/
  matchesText : String → Bool

namespace Directive

/-- The number of bytes of the beginning. -/
def specificity (directive : Directive) : Nat := (directive.source.getD "").utf8ByteSize

/-- Whether a source is concerned. -/
def covers (directive : Directive) (source : String) : Bool :=
  match directive.source with
  | some beginning => beginning.toList.isPrefixOf source.toList
  | none => true

/-- Whether records of a level are shown. -/
def permits (directive : Directive) (level : Level) : Bool :=
  match directive.threshold with
  | some threshold => level.rank ≤ threshold.rank
  | none => false

/-- Directives with one more, which takes the place of an earlier one for the same source. -/
def insert (directive : Directive) : List Directive → List Directive
  | [] => [directive]
  | head :: rest =>
    if head.source = directive.source then directive :: rest else head :: insert directive rest

end Directive

namespace Search

/-- Whether a text occurs in another one. -/
def occurs (part : List Char) : List Char → Bool
  | [] => part.isEmpty
  | c :: rest => part.isPrefixOf (c :: rest) || occurs part rest

/-- The search in which every pattern stands for itself. -/
def literal : Search := fun pattern => .ok fun text => occurs pattern.toList text.toList

end Search

namespace Filter

/-- What a part of a specification that cannot be read is answered with. -/
def complaint (part : String) : String := "invalid logging spec '" ++ part ++ "'"

/-- The directive of a part of a specification, or a complaint. -/
def parseDirective (part : String) : Except String Directive :=
  match Text.split '=' part with
  | [name] =>
    match Level.threshold? name with
    | some threshold => .ok ⟨none, threshold⟩
    | none => .ok ⟨some name, some .trace⟩
  | [name, level] =>
    if (Text.trim level).isEmpty then .ok ⟨some name, some .trace⟩
    else
      match Level.threshold? (Text.trim level) with
      | some threshold => .ok ⟨some name, threshold⟩
      | none => .error (complaint (Text.trim level))
  | _ => .error (complaint part)

/-- The directives of a specification before its slash, with the complaints. -/
def parseDirectives (text : String) : List Directive × List String :=
  let parts := ((Text.split ',' text).map Text.trim).filter (!·.isEmpty)
  parts.foldl
    (fun (directives, complaints) part =>
      match parseDirective part with
      | .ok directive => (directive.insert directives, complaints)
      | .error complaint => (directives, complaints ++ [complaint]))
    ([], [])

/-- The filter of directives in any order. Without directives, only errors are shown. -/
def ofDirectives (directives : List Directive) (matchesText : String → Bool) : Filter where
  directives :=
    if directives.isEmpty then [⟨none, some .error⟩]
    else directives.mergeSort fun a b => a.specificity ≤ b.specificity
  matchesText := matchesText

/-- Every text is shown. -/
def anyText : String → Bool := fun _ => true

/-- The filter of a specification, with complaints about what cannot be read. -/
def parse (search : Search) (specification : String) : Filter × List String :=
  match Text.split '/' specification with
  | [text] =>
    let (directives, complaints) := parseDirectives text
    (ofDirectives directives anyText, complaints)
  | [text, pattern] =>
    let (directives, complaints) := parseDirectives text
    match search pattern with
    | .ok matchesText => (ofDirectives directives matchesText, complaints)
    | .error reason =>
      (ofDirectives directives anyText, complaints ++ ["invalid regex filter - " ++ reason])
  | _ => (ofDirectives [] anyText, [complaint specification ++ " (too many '/'s)"])

/-- Whether a record is shown. -/
def shows (filter : Filter) (record : Record) : Bool :=
  match filter.directives.reverse.find? fun directive => directive.covers record.source with
  | some directive => directive.permits record.level && filter.matchesText record.text
  | none => false

end Filter

namespace Level

/-- The code that styles a level. -/
def style : Level → String
  | .error => "\x1b[1m\x1b[31m"
  | .warn => "\x1b[33m"
  | .info => "\x1b[32m"
  | .debug => "\x1b[34m"
  | .trace => "\x1b[36m"

/-- The name of a level, with a blank behind a short one. -/
def paddedName (level : Level) : String :=
  if level.name.length < 5 then level.name ++ " " else level.name

end Level

namespace Record

/-- A text in a style. -/
def inStyle (styles : Bool) (code text : String) : String :=
  if styles then code ++ text ++ "\x1b[0m" else text

/-- The text of a record, whose further lines are indented. -/
def indentedText (record : Record) : String :=
  "\n    ".intercalate (Text.split '\n' record.text)

/-- The line of a record. -/
def line (styles : Bool) (record : Record) : String :=
  let bracket := inStyle styles "\x1b[90m"
  bracket "[" ++ inStyle styles record.level.style record.level.paddedName ++ " " ++
    record.source ++ bracket "]" ++ " " ++ record.indentedText

end Record

end FactoryOverloads
