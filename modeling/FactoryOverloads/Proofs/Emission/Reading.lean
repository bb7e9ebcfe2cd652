import FactoryOverloads.Proofs.Emission.Words

/-!
# Reading arguments of the constructor call

The arguments that an overload passes to the constructor, read back from their
texts (`Argument`, `Target.argument?`). A text is read when it has one of the
forms that a target has for an argument, and then the names in it are taken as
they stand. What is emitted for a slot is read back as that slot
(`argument?_argumentText`), and so is the whole list (`arguments?_argumentTexts`).
The number of a name is read back too (`numbered?`), digit by digit, so that `T1`
and `T10` are different names.
-/

namespace FactoryOverloads

open Text (Avoids Spelled cut? fields? fieldsBefore?_append fieldsBefore?_last
  fields?_append itemsOf)
open Plan (ofPartition)

/-! ## Numbered names -/

/-- The number behind a stem. It has to be written as a number is emitted. -/
def numbered? (stem name : String) : Option Nat :=
  (stem.toList.isPrefixOf? name.toList).bind fun digits =>
    let number := Nat.ofDigitChars 10 digits 0
    if digits = (toString number).toList then some number else none

theorem numbered?_append (stem : String) (n : Nat) :
    numbered? stem (stem ++ toString n) = some n := by
  rw [numbered?, String.toList_append, Text.isPrefixOf?_append]
  simp

theorem numbered_injective (stem : String) :
    Function.Injective fun n : Nat => stem ++ toString n := by
  intro m n h
  have numbers := congrArg (numbered? stem) h
  simpa only [numbered?_append, Option.some_inj] using numbers

/-- A number behind a stem belongs to the name. -/
theorem isName_numbered {stem : String} (h : Template.isName stem.toList = true) (n : Nat) :
    Template.isName (stem ++ toString n).toList = true := by
  rw [String.toList_append]
  cases characters : stem.toList with
  | nil => rw [characters] at h; cases h
  | cons c rest =>
    rw [characters] at h
    simp only [Template.isName, Bool.and_eq_true, List.all_eq_true] at h
    simp only [List.cons_append, Template.isName, List.all_append, Bool.and_eq_true,
      List.all_eq_true]
    refine ⟨h.1, h.2, fun d mem => ?_⟩
    have digit := isDigit_of_mem_toString mem
    simp [Template.isNameCharacter, Char.isAlphanum, digit]

/-! ## Arguments -/

/-- An argument of the constructor call. -/
inductive Argument where
  /-- An argument of the overload is passed on, with its type if one is named. -/
  | passed (type : Option String) (name : String)
  /-- A value of a type is resolved from the receiver, which has the type
  `through` if one is named. -/
  | resolved (through : Option String) (receiver type : String)
  deriving DecidableEq, Repr

/-- The name that a text consists of. -/
def name? (text : List Char) : Option String :=
  if Template.isName text then some (String.ofList text) else none

theorem name?_toList {name : String} (h : Template.isName name.toList = true) :
    name? name.toList = some name := by
  rw [name?, if_pos h, String.ofList_toList]

namespace Target

/-- The argument of a text. -/
def argument? : Target → List Char → Option Argument
  | .cpp, text =>
    match fields? "std::forward<" [">(", ")"] text with
    | some [type, name] => some (.passed (some type) name)
    | _ =>
      match fields? "" [".template resolve<", ">()"] text with
      | some [receiver, type] => some (.resolved none receiver type)
      | _ => none
  | .rust, text =>
    match name? text with
    | some name => some (.passed none name)
    | none =>
      match fields? "<" [" as Resolve<", ">>::resolve(", ")?"] text with
      | some [through, type, receiver] => some (.resolved (some through) receiver type)
      | _ => none

/-- The arguments of a list. -/
def arguments? (target : Target) (text : List Char) : Option (List Argument) :=
  (itemsOf .ignored ", ".toList text).mapM target.argument?

/-- The argument that is passed for a slot. -/
def argument : Target → Slot → Argument
  | .cpp, .explicitRef index => .passed (some (explicitTypeParameter index)) (argumentName index)
  | .cpp, .injectedResolve position => .resolved none "container" (injectedTypeParameter position)
  | .rust, .explicitRef index => .passed none (argumentName index)
  | .rust, .injectedResolve position =>
    .resolved (some "C") "container" (injectedTypeParameter position)

end Target

/-! ## Reading back -/

theorem mapM_eq_some {α β : Type} {f : α → Option β} {l : List α} {values : List β}
    (h : l.map f = values.map some) : l.mapM f = some values := by
  induction l generalizing values with
  | nil =>
    cases values with
    | nil => rfl
    | cons b values => cases h
  | cons a l ih =>
    cases values with
    | nil => cases h
    | cons b values =>
      obtain ⟨head, tail⟩ := List.cons.inj h
      rw [List.mapM_cons, head, ih tail]
      rfl

/-- A list is read item by item. No item is empty when a reader of items refuses
the empty text. -/
theorem mapM_itemsOf_commaSeparated {α : Type} {words items : List String} {values : List α}
    {read : List Char → Option α} (h : ∀ item ∈ items, Spelled words item.toList)
    (hw : ∀ word ∈ words, Avoids ", ".toList word.toList)
    (each : (items.map fun item => read item.toList) = values.map some) (empty : read [] = none) :
    (itemsOf .ignored ", ".toList (commaSeparated items).toList).mapM read = some values := by
  have filled : items ≠ [""] := by
    intro e
    rw [e, List.map_singleton, String.toList_empty, empty] at each
    cases values <;> cases each
  rw [itemsOf_commaSeparated h hw filled, List.mapM_map]
  exact mapM_eq_some each

/-- A pattern does not begin in a numbered name when it does not begin in the
stem, nor with a digit. -/
theorem avoids_numbered {pattern : List Char} {stem : String} (h : Avoids pattern stem.toList)
    (start : pattern.head?.map Char.isDigit = some false) (n : Nat) :
    Avoids pattern (stem ++ toString n).toList :=
  (spelled_numbered (List.mem_singleton_self stem) n).avoids (by simpa using h) start

section Names

variable {pattern : List Char} (start : pattern.head?.map Char.isDigit = some false) (n : Nat)
include start

theorem avoids_argumentName (h : Avoids pattern "arg".toList) :
    Avoids pattern (argumentName n).toList :=
  avoids_numbered h start n

theorem avoids_explicitTypeParameter (h : Avoids pattern "A".toList) :
    Avoids pattern (explicitTypeParameter n).toList :=
  avoids_numbered h start n

theorem avoids_injectedTypeParameter (h : Avoids pattern "T".toList) :
    Avoids pattern (injectedTypeParameter n).toList :=
  avoids_numbered h start n

end Names

namespace Target

theorem argument?_forward (index : Nat) :
    argument? .cpp (argumentText .cpp (.explicitRef index)).toList =
      some (argument .cpp (.explicitRef index)) := by
  have shape : argumentText .cpp (.explicitRef index) = "std::forward<" ++
      (explicitTypeParameter index ++ (">(" ++ (argumentName index ++ ")"))) := by
    show "std::forward<" ++ explicitTypeParameter index ++ ">(" ++ argumentName index ++ ")" = _
    simp only [String.append_assoc]
  rw [shape, argument?, fields?_append,
    fieldsBefore?_append (avoids_explicitTypeParameter rfl index (by decide)),
    fieldsBefore?_last (avoids_argumentName rfl index (by decide))]
  rfl

theorem argument?_member (position : Nat) :
    argument? .cpp (argumentText .cpp (.injectedResolve position)).toList =
      some (argument .cpp (.injectedResolve position)) := by
  have shape : argumentText .cpp (.injectedResolve position) = "" ++ ("container" ++
      (".template resolve<" ++ (injectedTypeParameter position ++ ">()"))) := by
    show "container.template resolve<" ++ injectedTypeParameter position ++ ">()" = _
    rw [String.empty_append, String.append_assoc, ← String.append_assoc]
    rfl
  have other : fields? "std::forward<" [">(", ")"]
      (argumentText .cpp (.injectedResolve position)).toList = none := by
    rw [shape, String.empty_append, String.toList_append]
    rfl
  rw [argument?, other, shape]
  simp only
  rw [fields?_append, fieldsBefore?_append (by decide),
    fieldsBefore?_last (avoids_injectedTypeParameter rfl position (by decide))]
  rfl

theorem argument?_name (index : Nat) :
    argument? .rust (argumentText .rust (.explicitRef index)).toList =
      some (argument .rust (.explicitRef index)) := by
  have own : name? (argumentName index).toList = some (argumentName index) :=
    name?_toList (isName_numbered (by decide) index)
  show argument? .rust (argumentName index).toList = _
  rw [argument?, own]
  rfl

theorem argument?_path (position : Nat) :
    argument? .rust (argumentText .rust (.injectedResolve position)).toList =
      some (argument .rust (.injectedResolve position)) := by
  have shape : argumentText .rust (.injectedResolve position) = "<" ++ ("C" ++ (" as Resolve<" ++
      (injectedTypeParameter position ++ (">>::resolve(" ++ ("container" ++ ")?"))))) := by
    show "<C as Resolve<" ++ injectedTypeParameter position ++ ">>::resolve(container)?" = _
    rw [String.append_assoc, ← String.append_assoc, ← String.append_assoc]
    rfl
  have other : name? (argumentText .rust (.injectedResolve position)).toList = none := by
    rw [shape, String.toList_append]
    rfl
  rw [argument?, other, shape]
  simp only
  rw [fields?_append, fieldsBefore?_append (by decide),
    fieldsBefore?_append (avoids_injectedTypeParameter rfl position (by decide)),
    fieldsBefore?_last (by decide)]
  rfl

/-- What is emitted for a slot is read back as that slot. -/
theorem argument?_argumentText (target : Target) (slot : Slot) :
    target.argument? (target.argumentText slot).toList = some (target.argument slot) := by
  cases target with
  | cpp =>
    cases slot with
    | explicitRef index => exact argument?_forward index
    | injectedResolve position => exact argument?_member position
  | rust =>
    cases slot with
    | explicitRef index => exact argument?_name index
    | injectedResolve position => exact argument?_path position

theorem arguments?_argumentTexts (target : Target) (p : Partition) :
    target.arguments? (commaSeparated (target.argumentTexts p)).toList =
      some ((List.range p.arity).map fun position => target.argument (p.slot position)) := by
  refine mapM_itemsOf_commaSeparated (target.spelled_argumentTexts p)
    (by cases target <;> decide) ?_ (by cases target <;> rfl)
  simp only [argumentTexts, List.map_map]
  exact List.map_congr_left fun position _ => target.argument?_argumentText (p.slot position)

end Target

end FactoryOverloads
