import FactoryOverloads.Yaml.Node
import FactoryOverloads.Yaml.Scalar
import FactoryOverloads.Yaml.Token.Scanner

/-!
# From a text to its value

`Value.read` reads a text of at most one document. Aliases are replaced by what they stand for:
anchors are numbered in the order of their nodes (`Anchors`), an alias means the number its name has
at that place, and a number means the last node that got it. Nesting is limited, and so is the
number of replacements.
-/

namespace FactoryOverloads.Yaml

/-- A node whose aliases are numbers. -/
inductive Linked where
  | scalar (tag : Option Tag) (text : String) (isPlain : Bool)
  | sequence (tag : Option Tag) (items : List Linked)
  | mapping (tag : Option Tag) (entries : List (Linked × Linked))
  | alias (number : Nat)

/-- The anchors of a document. -/
structure Anchors where
  /-- The number that each name has at present. -/
  names : List (String × Nat)
  /-- For each number the rank of the last node that got it, latest first. -/
  latest : List (Nat × Nat)
  /-- The anchored nodes by rank. -/
  nodes : List (Nat × Linked)
  /-- How many anchored nodes have begun. -/
  count : Nat

namespace Anchors

/-- No anchors. -/
def empty : Anchors := ⟨[], [], [], 0⟩

/-- The anchors after the beginning of a node with an anchor. The name gets the number of different
names that are known before. -/
def define (name : String) (anchors : Anchors) : Anchors :=
  let number := anchors.names.length
  { anchors with
    names := (name, number) :: anchors.names.filter (·.1 != name)
    latest := (number, anchors.count) :: anchors.latest
    count := anchors.count + 1 }

/-- The node that a number stands for. -/
def find? (number : Nat) (anchors : Anchors) : Option Linked :=
  (anchors.latest.lookup number).bind fun rank => anchors.nodes.lookup rank

end Anchors

namespace Node

/-- Reading of anchors in document order. -/
abbrev Linking := StateT Anchors (Except Problem)

/-- The rank that the next anchored node will get, once its anchor, if any, is known. -/
def beginNode (anchor : Option String) : Linking (Option Nat) := do
  match anchor with
  | none => pure none
  | some name =>
    let anchors ← get
    set (anchors.define name)
    pure (some anchors.count)

/-- The linked node, recorded under its rank. -/
def endNode (rank : Option Nat) (linked : Linked) : Linking Linked := do
  if let some rank := rank then
    modify fun anchors => { anchors with nodes := (rank, linked) :: anchors.nodes }
  pure linked

mutual

/-- The node with its aliases numbered. -/
def link : Node → Linking Linked
  | .scalar anchor tag text isPlain => do
    let rank ← beginNode anchor
    endNode rank (.scalar tag text isPlain)
  | .sequence anchor tag items => do
    let rank ← beginNode anchor
    let items ← linkItems items
    endNode rank (.sequence tag items)
  | .mapping anchor tag entries => do
    let rank ← beginNode anchor
    let entries ← linkEntries entries
    endNode rank (.mapping tag entries)
  | .alias name => do
    match (← get).names.lookup name with
    | some number => pure (.alias number)
    | none => throw .unknownAnchor

/-- The items of a sequence with their aliases numbered. -/
def linkItems : List Node → Linking (List Linked)
  | [] => pure []
  | item :: items => do
    let item ← link item
    let items ← linkItems items
    pure (item :: items)

/-- The entries of a mapping with their aliases numbered. -/
def linkEntries : List (Node × Node) → Linking (List (Linked × Linked))
  | [] => pure []
  | (key, value) :: entries => do
    let key ← link key
    let value ← link value
    let entries ← linkEntries entries
    pure ((key, value) :: entries)

end

mutual

/-- The number of events of a node: one for a scalar or an alias, and a beginning and an end for a
collection. -/
def events : Node → Nat
  | .scalar _ _ _ _ => 1
  | .sequence _ _ items => itemEvents items + 2
  | .mapping _ _ entries => entryEvents entries + 2
  | .alias _ => 1

/-- The number of events of the items of a sequence. -/
def itemEvents : List Node → Nat
  | [] => 0
  | item :: items => events item + itemEvents items

/-- The number of events of the entries of a mapping. -/
def entryEvents : List (Node × Node) → Nat
  | [] => 0
  | (key, value) :: entries => events key + events value + entryEvents entries

end

end Node

namespace Linked

/-- Replacement of aliases; the state counts those that have been replaced. -/
abbrev Expansion := StateT Nat (Except Problem)

/-- The node that a node stands for: that of its number for an alias. At most `limit` aliases are
replaced. -/
def target (anchors : Anchors) (limit : Nat) : Linked → Expansion Linked
  | .alias number => do
    let replaced := (← get) + 1
    if limit < replaced then throw .aliasLimit
    set replaced
    match anchors.find? number with
    | some linked => pure linked
    | none => throw .unknownAnchor
  | linked => pure linked

/-- The value of a node under its local tag, if it has one. -/
def wrap (tag : Option Tag) (value : Value) : Value :=
  match tag.bind Tag.name? with
  | some name => .tagged name value
  | none => value

/-- The value of a node whose items have the values that `inner` gives (absent: nothing may be
nested any deeper). -/
def valueWith (anchors : Anchors) (limit : Nat) (inner : Option (Linked → Expansion Value))
    (linked : Linked) : Expansion Value := do
  match ← target anchors limit linked, inner with
  | .scalar tag text isPlain, _ =>
    let named := tag.bind Tag.name?
    pure (wrap tag (← Scalar.value (if named.isSome then none else tag) text isPlain))
  | .sequence tag items, some inner => do
    pure (wrap tag (.sequence (← items.mapM inner)))
  | .mapping tag entries, some inner => do
    let entries ← entries.mapM fun (key, value) => do pure (← inner key, ← inner value)
    if Value.hasDistinctKeys entries then pure (wrap tag (.mapping entries))
    else throw .duplicateKey
  | .alias _, _ => throw .unknownAnchor
  | _, none => throw .depthLimit

/-- The value of a node that may be nested `depth` deep. -/
def value (anchors : Anchors) (limit : Nat) : (depth : Nat) → Linked → Expansion Value
  | 0 => valueWith anchors limit none
  | depth + 1 => valueWith anchors limit (some (value anchors limit depth))

end Linked

/-- How deep collections may be nested. -/
def depthLimit : Nat := 128

/-- The value of a document: every alias counts against a hundred replacements for each event. -/
def Node.value (node : Node) : Except Problem Value := do
  let (linked, anchors) ← node.link.run .empty
  (linked.value anchors (100 * node.events) depthLimit).run' 0

/-- The value of a text; null if it has no content. -/
def Value.read (text : String) : Except Problem Value := do
  match ← Node.ofTokens (← Token.scan text) with
  | none => pure .null
  | some node => node.value

end FactoryOverloads.Yaml
