import FactoryOverloads.Signature

/-!
# JSON forms of plans

A small document type with the two layouts in use: `Json.compact` writes no blank, `Json.pretty`
writes one item a line, indented by two blanks a level. `Json.quoted` is the string form of both.

The document of a plan lists its fields in a fixed order. A partition is written as its pattern,
whose length is the arity.
-/

namespace FactoryOverloads

/-- A JSON document of the forms that plans need. -/
inductive Json where
  | number (value : Nat)
  | string (value : String)
  | array (items : List Json)
  | object (members : List (String × Json))

namespace Json

/-- The hexadecimal digit of a number below 16. -/
def hexDigit (n : Nat) : Char :=
  if n < 10 then Char.ofNat ('0'.toNat + n) else Char.ofNat ('a'.toNat + (n - 10))

/-- The form of a character inside a string: short escapes where there is one, four hexadecimal
digits for the other control characters, and itself otherwise. -/
def escaped (c : Char) : List Char :=
  if c = '"' then ['\\', '"']
  else if c = '\\' then ['\\', '\\']
  else if c = '\n' then ['\\', 'n']
  else if c = '\r' then ['\\', 'r']
  else if c = '\t' then ['\\', 't']
  else if c.toNat = 8 then ['\\', 'b']
  else if c.toNat = 12 then ['\\', 'f']
  else if c.toNat < 32 then
    ['\\', 'u', '0', '0', hexDigit (c.toNat / 16), hexDigit (c.toNat % 16)]
  else [c]

/-- A string between quotes. -/
def quoted (s : String) : String :=
  String.ofList ('"' :: s.toList.flatMap escaped ++ ['"'])

mutual

/-- The document without blanks. -/
def compact : Json → String
  | .number value => toString value
  | .string value => quoted value
  | .array items => "[" ++ String.intercalate "," (compactItems items) ++ "]"
  | .object members => "\x7b" ++ String.intercalate "," (compactMembers members) ++ "\x7d"

/-- The items of an array without blanks. -/
def compactItems : List Json → List String
  | [] => []
  | item :: items => item.compact :: compactItems items

/-- The members of an object without blanks. -/
def compactMembers : List (String × Json) → List String
  | [] => []
  | (name, value) :: members => (quoted name ++ ":" ++ value.compact) :: compactMembers members

end

/-- The line break before an item at a depth. -/
def lineBreak (depth : Nat) : String :=
  "\n" ++ String.ofList (List.replicate (2 * depth) ' ')

/-- Items on lines of their own between two brackets, which touch if there is no item. -/
def bracketed (opening closing : String) (depth : Nat) (items : List String) : String :=
  if items.isEmpty then opening ++ closing
  else
    opening ++ lineBreak (depth + 1) ++
      String.intercalate ("," ++ lineBreak (depth + 1)) items ++ lineBreak depth ++ closing

mutual

/-- The document at a depth, one item a line. -/
def prettyAt (depth : Nat) : Json → String
  | .number value => toString value
  | .string value => quoted value
  | .array items => bracketed "[" "]" depth (prettyItems depth items)
  | .object members => bracketed "\x7b" "\x7d" depth (prettyMembers depth members)

/-- The items of an array at a depth. -/
def prettyItems (depth : Nat) : List Json → List String
  | [] => []
  | item :: items => item.prettyAt (depth + 1) :: prettyItems depth items

/-- The members of an object at a depth. -/
def prettyMembers (depth : Nat) : List (String × Json) → List String
  | [] => []
  | (name, value) :: members =>
    (quoted name ++ ": " ++ value.prettyAt (depth + 1)) :: prettyMembers depth members

end

/-- The document with one item a line. -/
def pretty (document : Json) : String := document.prettyAt 0

end Json

/-- A slot as an object with one member, named for the kind of slot. -/
def Slot.toJson : Slot → Json
  | .explicitRef index => .object [("ExplicitRef", .number index)]
  | .injectedResolve position =>
    .object [("InjectedResolve", .object [("position", .number position)])]

/-- A key as its tag names and its count. -/
def Key.toJson (key : Key) : Json :=
  .object [
    ("tags", .array (key.tags.map fun tag => .string tag.name)),
    ("explicit_count", .number key.explicitCount)]

/-- A plan with its fields in order. -/
def Plan.toJson (plan : Plan) : Json :=
  .object [
    ("arity", .number plan.arity),
    ("partition", .string plan.partition.pattern),
    ("explicit_args", .array (plan.explicitArguments.map .string)),
    ("call", .array (plan.call.map Slot.toJson)),
    ("key", plan.key.toJson)]

end FactoryOverloads
