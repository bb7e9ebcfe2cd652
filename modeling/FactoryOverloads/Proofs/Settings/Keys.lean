import Mathlib.Data.List.Pairwise
import FactoryOverloads.Proofs.FileTree.Walking
import FactoryOverloads.Settings.Text

/-!
# What a settings file states

A key of a document has the value of the entry of that name, unless that is null
(`Settings.stated?`). A document is a settings file when it is empty, or a mapping
of known keys without repetition (`Settings.WellFormed`), and what it states about
each key is a value of that key's kind (`Settings.States`). Reading succeeds on
these documents only, and with the layer of the stated values
(`Layer.read_eq_ok_iff`).

Entries are read one after the other, and each sets its own key only
(`Layer.set_eq_ok_iff`). So, by induction on the entries, a key of the layer is
what its entry states, and what it was before where there is none
(`Layer.setEntries_eq_ok_iff`).
-/

namespace FactoryOverloads.Settings

variable {key own : Key} {value : Yaml.Value} {layer next final : Layer}
  {entry : Yaml.Value × Yaml.Value} {entries : List (Yaml.Value × Yaml.Value)} {seen : List Key}

/-! ## Keys -/

/-- What is stated about a key. -/
abbrev Key.Value : Key → Type
  | .minArity => Nat
  | .maxArity => Nat
  | .output => String
  | .target => Target

/-- A value as one of the kind of a key. -/
def Key.decodeValue : (key : Key) → Yaml.Value → Except DecodeError key.Value
  | .minArity => decodeArity
  | .maxArity => decodeArity
  | .output => decodePath
  | .target => decodeTarget

/-- What a layer has for a key. -/
def Layer.get (layer : Layer) : (key : Key) → Option key.Value
  | .minArity => layer.minArity
  | .maxArity => layer.maxArity
  | .output => layer.output
  | .target => layer.target

theorem Layer.ext_get (same : ∀ key, layer.get key = next.get key) : layer = next := by
  obtain ⟨minArity, maxArity, output, target⟩ := layer
  cases same .minArity
  cases same .maxArity
  cases same .output
  cases same .target
  rfl

/-- Whether a value is the name of a key. -/
def Key.isNamedBy (key : Key) (value : Yaml.Value) : Bool :=
  match value.untagged with
  | .string name => name == key.name
  | _ => false

theorem Key.find?_all_eq_some_iff {name : String} :
    (all.find? fun key => key.name == name) = some key ↔ name = key.name := by
  constructor
  · intro found
    exact (beq_iff_eq.mp (List.find?_some found :)).symm
  · rintro rfl
    cases key <;> rfl

theorem Key.decode_eq_ok_iff : Key.decode value = .ok key ↔ key.isNamedBy value = true := by
  unfold Key.decode Key.isNamedBy
  cases value.untagged with
  | string name =>
    dsimp only
    rw [beq_iff_eq, ← find?_all_eq_some_iff]
    cases all.find? fun key => key.name == name <;> simp
  | _ => simp

/-- A value names one key at most. -/
theorem Key.eq_of_isNamedBy (first : key.isNamedBy value = true)
    (second : own.isNamedBy value = true) : key = own := by
  rw [← decode_eq_ok_iff] at first second
  exact Except.ok.inj (first.symm.trans second)

/-! ## Documents -/

/-- A value, absent if it is null. -/
def present? : Yaml.Value → Option Yaml.Value
  | .null => none
  | value => some value

/-- The entry of a key. -/
def entryOf? (key : Key) (entries : List (Yaml.Value × Yaml.Value)) :
    Option (Yaml.Value × Yaml.Value) :=
  entries.find? fun entry => key.isNamedBy entry.1

/-- What a document states about a key. -/
def stated? (document : Yaml.Value) (key : Key) : Option Yaml.Value :=
  match document.untagged with
  | .mapping entries => (entryOf? key entries).bind fun entry => present? entry.2
  | _ => none

/-- The entries are named by keys, and no two of them by the same one. -/
def KeysDiffer (entries : List (Yaml.Value × Yaml.Value)) : Prop :=
  (∀ entry ∈ entries, ∃ key : Key, key.isNamedBy entry.1 = true) ∧
    entries.Pairwise fun first second => ∀ key : Key,
      key.isNamedBy first.1 = true → key.isNamedBy second.1 = false

/-- The document is empty, or a mapping of known keys without repetition. -/
def WellFormed (document : Yaml.Value) : Prop :=
  document.untagged = .null ∨
    ∃ entries, document.untagged = .mapping entries ∧ KeysDiffer entries

/-- The document is a settings file with the keys of the layer. -/
structure States (document : Yaml.Value) (layer : Layer) : Prop where
  wellFormed : WellFormed document
  decodes : ∀ key : Key, (stated? document key).mapM key.decodeValue = .ok (layer.get key)

theorem entryOf?_cons_of_isNamedBy (named : own.isNamedBy entry.1 = true) :
    entryOf? own (entry :: entries) = some entry := by
  rw [entryOf?, List.find?_cons, named]

theorem entryOf?_cons_of_ne (named : own.isNamedBy entry.1 = true) (differs : key ≠ own) :
    entryOf? key (entry :: entries) = entryOf? key entries := by
  have unnamed : key.isNamedBy entry.1 = false :=
    Bool.eq_false_iff.mpr fun same => differs (Key.eq_of_isNamedBy same named)
  rw [entryOf?, List.find?_cons, unnamed, entryOf?]

theorem keysDiffer_cons_iff :
    KeysDiffer (entry :: entries) ↔ ∃ own : Key, own.isNamedBy entry.1 = true ∧
      entryOf? own entries = none ∧ KeysDiffer entries := by
  simp only [KeysDiffer, List.forall_mem_cons, List.pairwise_cons, entryOf?, List.find?_eq_none,
    Bool.not_eq_true]
  constructor
  · rintro ⟨⟨⟨own, named⟩, each⟩, apart, differ⟩
    exact ⟨own, named, fun other member => apart other member own named, each, differ⟩
  · rintro ⟨own, named, apart, each, differ⟩
    refine ⟨⟨⟨own, named⟩, each⟩, fun other member key same => ?_, differ⟩
    cases Key.eq_of_isNamedBy same named
    exact apart other member

/-! ## Reading entries -/

theorem decodeOptional_eq {α : Type} (decode : Yaml.Value → Except DecodeError α)
    (value : Yaml.Value) : decodeOptional decode value = (present? value).mapM decode := by
  cases value <;> rfl

namespace Layer

theorem get_empty (key : Key) : empty.get key = none := by
  cases key <;> rfl

/-- The layer with something else for a key. -/
def put (layer : Layer) : (key : Key) → Option key.Value → Layer
  | .minArity, value? => { layer with minArity := value? }
  | .maxArity, value? => { layer with maxArity := value? }
  | .output, value? => { layer with output := value? }
  | .target, value? => { layer with target := value? }

theorem get_put_self (layer : Layer) (key : Key) (value? : Option key.Value) :
    (layer.put key value?).get key = value? := by
  cases key <;> rfl

theorem get_put_of_ne (layer : Layer) (value? : Option own.Value) (differs : key ≠ own) :
    (layer.put own value?).get key = layer.get key := by
  cases own <;> cases key <;> simp_all [put, get]

theorem set_eq (layer : Layer) (key : Key) (value : Yaml.Value) :
    layer.set key value = layer.put key <$> (present? value).mapM key.decodeValue := by
  cases key <;> simp only [set, decodeOptional_eq] <;> rfl

/-- An entry sets its own key, and no other. -/
theorem set_eq_ok_iff :
    layer.set own value = .ok next ↔ (present? value).mapM own.decodeValue = .ok (next.get own) ∧
      ∀ key ≠ own, next.get key = layer.get key := by
  rw [set_eq, map_eq_ok_iff]
  constructor
  · rintro ⟨value?, decoded, rfl⟩
    rw [get_put_self]
    exact ⟨decoded, fun key differs => get_put_of_ne layer value? differs⟩
  · rintro ⟨decoded, kept⟩
    refine ⟨_, decoded, ext_get fun key => ?_⟩
    by_cases same : key = own
    · subst same
      exact get_put_self layer key _
    · rw [get_put_of_ne layer _ same, kept key same]

theorem setEntries_cons_eq_ok_iff :
    layer.setEntries seen (entry :: entries) = .ok final ↔
      ∃ key, key.isNamedBy entry.1 = true ∧ key ∉ seen ∧
        ∃ next, layer.set key entry.2 = .ok next ∧
          next.setEntries (key :: seen) entries = .ok final := by
  rw [setEntries, bind_eq_ok_iff]
  simp only [Key.decode_eq_ok_iff, unless_eq_ok_iff, bind_eq_ok_iff]

/-- What a key of the layer is once entries have been read. -/
def Follows (final layer : Layer) (entries : List (Yaml.Value × Yaml.Value)) (key : Key) : Prop :=
  match entryOf? key entries with
  | some entry => (present? entry.2).mapM key.decodeValue = .ok (final.get key)
  | none => final.get key = layer.get key

section Follows

variable (named : own.isNamedBy entry.1 = true)

include named in
theorem follows_own_iff :
    final.Follows layer (entry :: entries) own ↔
      (present? entry.2).mapM own.decodeValue = .ok (final.get own) := by
  rw [Follows, entryOf?_cons_of_isNamedBy named]

include named in
theorem follows_cons_iff (differs : key ≠ own) :
    final.Follows layer (entry :: entries) key ↔ final.Follows layer entries key := by
  rw [Follows, entryOf?_cons_of_ne named differs, Follows]

theorem follows_iff_of_absent (absent : entryOf? key entries = none) :
    final.Follows layer entries key ↔ final.get key = layer.get key := by
  rw [Follows, absent]

theorem follows_congr (kept : next.get key = layer.get key) :
    final.Follows next entries key ↔ final.Follows layer entries key := by
  rw [Follows, kept, Follows]

end Follows

/-- Entries set the keys that they name, and leave the others. -/
theorem setEntries_eq_ok_iff :
    layer.setEntries seen entries = .ok final ↔
      KeysDiffer entries ∧ (∀ key ∈ seen, entryOf? key entries = none) ∧
        ∀ key, final.Follows layer entries key := by
  induction entries generalizing layer seen with
  | nil =>
    have differ : KeysDiffer [] := ⟨nofun, .nil⟩
    simp only [setEntries, Except.ok.injEq, differ, entryOf?, List.find?_nil, implies_true,
      Follows, true_and]
    exact ⟨fun same key => by rw [same], fun same => (ext_get same).symm⟩
  | cons entry entries ih =>
    simp only [setEntries_cons_eq_ok_iff, keysDiffer_cons_iff, set_eq_ok_iff, ih]
    constructor
    · rintro ⟨own, named, fresh, next, ⟨decoded, kept⟩, differ, absent, follows⟩
      obtain ⟨once, absent⟩ := List.forall_mem_cons.mp absent
      refine ⟨⟨own, named, once, differ⟩, fun key member => ?_, fun key => ?_⟩
      · rw [entryOf?_cons_of_ne named (ne_of_mem_of_not_mem member fresh)]
        exact absent key member
      · by_cases same : key = own
        · subst same
          rw [follows_own_iff named, (follows_iff_of_absent once).mp (follows key)]
          exact decoded
        · rw [follows_cons_iff named same, ← follows_congr (kept key same)]
          exact follows key
    · rintro ⟨⟨own, named, once, differ⟩, absent, follows⟩
      have set := layer.get_put_self own (final.get own)
      have kept (key : Key) (differs : key ≠ own) := layer.get_put_of_ne (final.get own) differs
      have fresh : own ∉ seen := by
        intro member
        have none := absent own member
        rw [entryOf?_cons_of_isNamedBy named] at none
        cases none
      refine ⟨own, named, fresh, layer.put own (final.get own), ⟨?_, kept⟩, differ,
        List.forall_mem_cons.mpr ⟨once, fun key member => ?_⟩, fun key => ?_⟩
      · rw [set]
        exact (follows_own_iff named).mp (follows own)
      · rw [← entryOf?_cons_of_ne named (ne_of_mem_of_not_mem member fresh)]
        exact absent key member
      · by_cases same : key = own
        · subst same
          exact (follows_iff_of_absent once).mpr set.symm
        · rw [follows_congr (kept key same), ← follows_cons_iff named same]
          exact follows key

/-- A layer that begins empty has what the entries state. -/
theorem follows_empty_iff :
    layer.Follows .empty entries key ↔
      ((entryOf? key entries).bind fun entry => present? entry.2).mapM key.decodeValue =
        .ok (layer.get key) := by
  unfold Follows
  cases entryOf? key entries with
  | some entry => rfl
  | none =>
    rw [get_empty]
    exact ⟨fun same => by rw [same]; rfl, fun same => (Except.ok.inj same).symm⟩

/-! ## Reading documents -/

variable {document : Yaml.Value}

theorem states_iff_of_null (null : document.untagged = .null) :
    States document layer ↔ layer = .empty := by
  have nothing (key : Key) : stated? document key = none := by rw [stated?, null]
  constructor
  · rintro ⟨-, decodes⟩
    refine ext_get fun key => ?_
    have decoded := decodes key
    rw [nothing] at decoded
    rw [get_empty, ← Except.ok.inj decoded]
  · rintro rfl
    exact ⟨.inl null, fun key => by rw [nothing, get_empty]; rfl⟩

theorem states_iff_of_mapping (mapping : document.untagged = .mapping entries) :
    States document layer ↔ KeysDiffer entries ∧ ∀ key, layer.Follows .empty entries key := by
  have stated (key : Key) :
      stated? document key = (entryOf? key entries).bind fun entry => present? entry.2 := by
    rw [stated?, mapping]
  simp only [follows_empty_iff, ← stated]
  constructor
  · rintro ⟨null | ⟨_, same, differ⟩, decodes⟩
    · cases mapping.symm.trans null
    · cases mapping.symm.trans same
      exact ⟨differ, decodes⟩
  · rintro ⟨differ, decodes⟩
    exact ⟨.inr ⟨entries, mapping, differ⟩, decodes⟩

theorem decode_eq_ok_iff (present : document.untagged ≠ .null) :
    decode document = .ok layer ↔ States document layer := by
  unfold decode
  split
  · next entries mapping => rw [states_iff_of_mapping mapping, setEntries_eq_ok_iff]; simp
  · next other kind =>
    simp only [reduceCtorEq, false_iff]
    rintro ⟨null | ⟨entries, mapping, -⟩, -⟩
    · exact present null
    · exact kind entries mapping

theorem isNull_iff : document.isNull = true ↔ document.untagged = .null := by
  unfold Yaml.Value.isNull
  cases document.untagged <;> simp

/-- A text is read as the layer that its document states. -/
theorem read_eq_ok_iff {text : String} :
    Layer.read text = .ok layer ↔
      ∃ document, Yaml.Value.read text = .ok document ∧ States document layer := by
  unfold Layer.read
  cases Yaml.Value.read text with
  | error problem => simp
  | ok document =>
    simp only [Except.ok.injEq, exists_eq_left']
    split
    · next null =>
      rw [states_iff_of_null (isNull_iff.mp null), Except.ok.injEq, eq_comm]
    · next present =>
      rw [← decode_eq_ok_iff (mt isNull_iff.mpr present)]
      cases decode document <;> simp

end Layer

end FactoryOverloads.Settings
