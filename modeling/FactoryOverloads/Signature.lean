import FactoryOverloads.Partition

/-!
# Signature plans

A plan describes one overload without a target language: the arguments its caller supplies, and the
constructor call that interleaves them with values resolved from the container.

- `Plan.ofPartition` plans the overload of a partition.
- `Key` is what two overloads must not share: the whole tag sequence, not only the number of
  explicit arguments.
-/

namespace FactoryOverloads

/-- Where the value of a constructor position comes from. -/
inductive Tag where
  | explicit
  | injected
  deriving DecidableEq, Hashable, Repr

namespace Tag

/-- The name of the tag. -/
def name : Tag → String
  | .explicit => "Explicit"
  | .injected => "Injected"

/-- The letter of the tag in the text of a key. -/
def letter : Tag → Char
  | .explicit => 'E'
  | .injected => 'I'

end Tag

/-- The identifier of the explicit argument of an index. -/
def argumentName (index : Nat) : String := s!"arg{index}"

/-- The type parameter of the explicit argument of an index. -/
def explicitTypeParameter (index : Nat) : String := s!"A{index}"

/-- The type parameter of an injected constructor position. -/
def injectedTypeParameter (position : Nat) : String := s!"T{position}"

/-- One argument of the constructor call. -/
inductive Slot where
  /-- The explicit argument of an index is passed on. -/
  | explicitRef (index : Nat)
  /-- The value of a position is resolved from the container. -/
  | injectedResolve (position : Nat)
  deriving DecidableEq, Repr

namespace Slot

/-- Where the slot's value comes from. -/
def tag : Slot → Tag
  | .explicitRef _ => .explicit
  | .injectedResolve _ => .injected

/-- The type parameter of the slot's value. -/
def typeParameter : Slot → String
  | .explicitRef index => explicitTypeParameter index
  | .injectedResolve position => injectedTypeParameter position

end Slot

/-- The fingerprint of an overload. -/
structure Key where
  tags : List Tag
  explicitCount : Nat
  deriving DecidableEq, Hashable, Repr

/-- The tag letters in position order, a slash, and the number of explicit arguments. -/
def Key.text (key : Key) : String :=
  String.ofList (key.tags.map Tag.letter) ++ "/" ++ toString key.explicitCount

/-- The description of one overload. -/
structure Plan where
  arity : Nat
  partition : Partition
  /-- The identifiers of the arguments the caller supplies, in order. -/
  explicitArguments : List String
  /-- The constructor call, one slot per position. -/
  call : List Slot
  key : Key
  deriving DecidableEq, Repr

namespace Plan

/-- The arguments and the slots of the markers from `position` on, when `index` explicit arguments
precede it. -/
def place (position index : Nat) : List Bool → List String × List Slot
  | [] => ([], [])
  | true :: markers =>
    let (arguments, call) := place (position + 1) (index + 1) markers
    (argumentName index :: arguments, .explicitRef index :: call)
  | false :: markers =>
    let (arguments, call) := place (position + 1) index markers
    (arguments, .injectedResolve position :: call)

/-- The plan of a partition: explicit positions take the next argument, every other position is
resolved. -/
def ofPartition (p : Partition) : Plan :=
  let (arguments, call) := place 0 0 p.markers
  { arity := p.arity
    partition := p
    explicitArguments := arguments
    call := call
    key := ⟨call.map Slot.tag, arguments.length⟩ }

/-- The type parameters of the resolved slots, in position order. -/
def injectedTypeParameters (plan : Plan) : List String :=
  (plan.call.filter fun slot => slot.tag == .injected).map Slot.typeParameter

/-- The type parameters of the explicit arguments, in order. -/
def explicitTypeParameters (plan : Plan) : List String :=
  (List.range plan.explicitArguments.length).map explicitTypeParameter

end Plan

end FactoryOverloads
