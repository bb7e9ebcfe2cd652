import FactoryOverloads.Decimal

/-!
# YAML values

What a document means once anchors, handles and the forms of scalars have been read: a tree of
nulls, truth values, numbers, strings, sequences, mappings, and tagged values.
-/

namespace FactoryOverloads.Yaml

/-- A value. Integers fit 64 bits, with or without a sign. -/
inductive Value where
  | null
  | bool (value : Bool)
  | integer (value : Int)
  | real (value : Binary64)
  | string (value : String)
  | sequence (items : List Value)
  | mapping (entries : List (Value × Value))
  | tagged (tag : String) (value : Value)

namespace Value

/-- The value without the tags around it. -/
def untagged : Value → Value
  | .tagged _ value => value.untagged
  | value => value

/-- Whether the value is null, with or without tags. -/
def isNull (value : Value) : Bool :=
  match value.untagged with
  | .null => true
  | _ => false

/-- A tag name without the exclamation mark it may begin with. -/
def tagName (tag : String) : String :=
  match tag.toList with
  | '!' :: c :: rest => String.ofList (c :: rest)
  | _ => tag

mutual

/-- Equality of values: reals are compared as numbers, and mappings without regard to order. -/
def same : Value → Value → Bool
  | .null, .null => true
  | .bool a, .bool b => a == b
  | .integer a, .integer b => a == b
  | .real a, .real b => a.same b
  | .string a, .string b => a == b
  | .sequence as, .sequence bs => sameItems as bs
  | .mapping as, .mapping bs => as.length == bs.length && sameEntries as bs
  | .tagged s a, .tagged t b => tagName s == tagName t && same a b
  | _, _ => false

/-- Equality of the items of two sequences, in order. -/
def sameItems : List Value → List Value → Bool
  | [], [] => true
  | a :: as, b :: bs => same a b && sameItems as bs
  | _, _ => false

/-- Whether every entry of the first list has an equal one in the second. -/
def sameEntries : List (Value × Value) → List (Value × Value) → Bool
  | [], _ => true
  | (k, v) :: entries, bs => bs.any (fun (l, w) => same k l && same v w) && sameEntries entries bs

end

/-- Whether no key of a mapping is equal to an earlier one. -/
def hasDistinctKeys : List (Value × Value) → Bool
  | [] => true
  | (key, _) :: entries => !entries.any (fun (other, _) => same key other) && hasDistinctKeys entries

end Value

end FactoryOverloads.Yaml
