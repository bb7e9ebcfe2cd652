import FactoryOverloads.Signature

/-!
# Tries of signature keys

A map from keys to values. The tags of a key lead down a binary tree; at their end the values lie
beside the counts of explicit arguments. Finding and inserting take as many steps as a key has tags,
however many keys there are.
-/

namespace FactoryOverloads

/-- A map from signature keys to values. -/
inductive Trie (α : Type) where
  | empty
  /-- The values of the keys that end here, and the tries of those that go on. -/
  | node (here : List (Nat × α)) (explicit injected : Trie α)
  deriving Repr

namespace Trie

variable {α : Type}

/-- The value of the tags and the count. -/
def findTags? : Trie α → List Tag → (count : Nat) → Option α
  | .empty, _, _ => none
  | .node here _ _, [], count => here.lookup count
  | .node _ explicit _, .explicit :: tags, count => explicit.findTags? tags count
  | .node _ _ injected, .injected :: tags, count => injected.findTags? tags count

/-- The trie with a value for the tags and the count. -/
def insertTags (count : Nat) (value : α) : List Tag → Trie α → Trie α
  | [], .empty => .node [(count, value)] .empty .empty
  | [], .node here explicit injected => .node ((count, value) :: here) explicit injected
  | .explicit :: tags, .empty => .node [] (insertTags count value tags .empty) .empty
  | .explicit :: tags, .node here explicit injected =>
    .node here (insertTags count value tags explicit) injected
  | .injected :: tags, .empty => .node [] .empty (insertTags count value tags .empty)
  | .injected :: tags, .node here explicit injected =>
    .node here explicit (insertTags count value tags injected)

/-- The value of a key. -/
def find? (trie : Trie α) (key : Key) : Option α := trie.findTags? key.tags key.explicitCount

/-- The trie with a value for a key. It takes the place of an earlier one. -/
def insert (trie : Trie α) (key : Key) (value : α) : Trie α :=
  insertTags key.explicitCount value key.tags trie

end Trie

end FactoryOverloads
