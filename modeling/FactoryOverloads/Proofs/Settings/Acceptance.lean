import Mathlib.Data.List.Pairwise
import Mathlib.Tactic.Choose
import FactoryOverloads.Proofs.Settings.Keys
import FactoryOverloads.Proofs.Yaml.Reading

/-!
# Which documents are settings files

Of the values without tags (`Yaml.Value.TagFree`), null and the mappings of
allowed entries are settings files, and no others (`Settings.Layer.read_accepts`).
An allowed entry has the name of a key, with null or with a value of the kind that
belongs to the key (`Settings.Allowed`, `Settings.Gives`). A key is set to what its
entry gives, wherever in the mapping that entry stands.

A value of an entry is judged by its form alone (`decodeValue_eq_ok_iff`), which is
where it matters that integers have been read from words. Names without tags are
equal only if their texts are, so that the keys that reading found different are
different keys of the settings (`keysDiffer_of_hasDistinctKeys`).
-/

namespace FactoryOverloads

attribute [local instance (high)] instPowNat

namespace Yaml.Value

/-- No tag occurs in the value. -/
inductive TagFree : Value → Prop
  | null : TagFree .null
  | bool (truth : Bool) : TagFree (.bool truth)
  | integer (n : Int) : TagFree (.integer n)
  | real (number : Binary64) : TagFree (.real number)
  | string (text : String) : TagFree (.string text)
  | sequence {items : List Value} (each : ∀ item ∈ items, TagFree item) : TagFree (.sequence items)
  | mapping {entries : List (Value × Value)} (keys : ∀ entry ∈ entries, TagFree entry.1)
      (values : ∀ entry ∈ entries, TagFree entry.2) : TagFree (.mapping entries)

mutual

/-- Whether no tag occurs in the value. -/
def isTagFree : Value → Bool
  | .sequence items => areTagFree items
  | .mapping entries => haveTagFree entries
  | .tagged _ _ => false
  | _ => true

/-- Whether no tag occurs in the items. -/
def areTagFree : List Value → Bool
  | [] => true
  | item :: items => item.isTagFree && areTagFree items

/-- Whether no tag occurs in the entries. -/
def haveTagFree : List (Value × Value) → Bool
  | [] => true
  | (key, value) :: entries => key.isTagFree && value.isTagFree && haveTagFree entries

end

mutual

theorem TagFree.of_isTagFree : (value : Value) → value.isTagFree = true → value.TagFree
  | .null, _ => .null
  | .bool truth, _ => .bool truth
  | .integer n, _ => .integer n
  | .real number, _ => .real number
  | .string text, _ => .string text
  | .sequence items, h => .sequence (TagFree.of_areTagFree items h)
  | .mapping entries, h =>
    .mapping (fun entry member => (TagFree.of_haveTagFree entries h entry member).1)
      fun entry member => (TagFree.of_haveTagFree entries h entry member).2
  | .tagged _ _, h => by cases h

theorem TagFree.of_areTagFree : (items : List Value) → areTagFree items = true →
    ∀ item ∈ items, item.TagFree
  | [], _ => List.forall_mem_nil _
  | item :: items, h => by
    rw [areTagFree, Bool.and_eq_true] at h
    exact List.forall_mem_cons.mpr ⟨of_isTagFree item h.1, of_areTagFree items h.2⟩

theorem TagFree.of_haveTagFree : (entries : List (Value × Value)) → haveTagFree entries = true →
    ∀ entry ∈ entries, entry.1.TagFree ∧ entry.2.TagFree
  | [], _ => List.forall_mem_nil _
  | (key, value) :: entries, h => by
    rw [haveTagFree, Bool.and_eq_true, Bool.and_eq_true] at h
    exact List.forall_mem_cons.mpr
      ⟨⟨of_isTagFree key h.1.1, of_isTagFree value h.1.2⟩, of_haveTagFree entries h.2⟩

end

theorem TagFree.untagged_eq {value : Value} (plain : value.TagFree) : value.untagged = value := by
  cases plain <;> rfl

theorem pairwise_of_hasDistinctKeys {entries : List (Value × Value)}
    (differ : hasDistinctKeys entries = true) :
    entries.Pairwise fun first second => same first.1 second.1 = false := by
  induction entries with
  | nil => exact .nil
  | cons entry entries ih =>
    rw [hasDistinctKeys, Bool.and_eq_true, Bool.not_eq_true', List.any_eq_false] at differ
    exact .cons (fun other member => Bool.eq_false_iff.mpr (differ.1 other member)) (ih differ.2)

end Yaml.Value

namespace Settings

variable {key : Key} {value : Yaml.Value} {entry : Yaml.Value × Yaml.Value}
  {entries : List (Yaml.Value × Yaml.Value)} {layer : Layer} {text : String}

/-- The entry gives a key something. -/
inductive Gives : Yaml.Value × Yaml.Value → (key : Key) → key.Value → Prop
  | minArity {n : Nat} (fits : n < 2 ^ (64 : Nat)) :
      Gives (.string "min_arity", .integer n) .minArity n
  | maxArity {n : Nat} (fits : n < 2 ^ (64 : Nat)) :
      Gives (.string "max_arity", .integer n) .maxArity n
  | output (path : String) : Gives (.string "output", .string path) .output path
  | cpp : Gives (.string "target", .string "cpp") .target .cpp
  | rust : Gives (.string "target", .string "rust") .target .rust

/-- An entry that a settings file can have: it gives a key something, or leaves it unset. -/
inductive Allowed : Yaml.Value × Yaml.Value → Prop
  | given {entry : Yaml.Value × Yaml.Value} {key : Key} {given : key.Value}
      (gives : Gives entry key given) : Allowed entry
  | unset {name : String} (known : name ∈ ["min_arity", "max_arity", "output", "target"]) :
      Allowed (.string name, .null)

/-! ## Values -/

theorem decodeArity_eq_ok_iff (legal : value.Legal) (plain : value.TagFree) {n : Nat} :
    decodeArity value = .ok n ↔ value = .integer n ∧ n < 2 ^ (64 : Nat) := by
  unfold decodeArity
  rw [plain.untagged_eq]
  cases legal with
  | @integer m least most =>
    dsimp only
    split
    · next negative =>
      refine ⟨nofun, ?_⟩
      rintro ⟨⟨⟩, -⟩
      omega
    · next natural =>
      obtain ⟨m, rfl⟩ := Int.eq_ofNat_of_zero_le (Int.not_lt.mp natural)
      simp only [Except.ok.injEq, Yaml.Value.integer.injEq, Int.toNat_natCast]
      omega
  | _ => simp

theorem decodePath_eq_ok_iff (plain : value.TagFree) {path : String} :
    decodePath value = .ok path ↔ value = .string path := by
  unfold decodePath
  rw [plain.untagged_eq]
  cases plain <;> simp

theorem decodeTargetName_eq_ok_iff {name : String} {target : Target} :
    decodeTargetName name = .ok target ↔ name = target.name := by
  unfold decodeTargetName
  constructor
  · intro found
    split at found
    · next known =>
      cases found
      exact (beq_iff_eq.mp (List.find?_some known :)).symm
    · cases found
  · rintro rfl
    cases target <;> rfl

theorem decodeTarget_eq_ok_iff (plain : value.TagFree) {target : Target} :
    decodeTarget value = .ok target ↔ value = .string target.name := by
  cases plain <;> simp [decodeTarget, decodeTargetName_eq_ok_iff]

/-- The entry of a key bears its name. -/
theorem Gives.name_eq {given : key.Value} (gives : Gives entry key given) :
    entry.1 = .string key.name := by
  cases gives <;> rfl

/-- A value is taken for a key if it is of the form that the key asks for. -/
theorem decodeValue_eq_ok_iff (legal : value.Legal) (plain : value.TagFree) {given : key.Value} :
    key.decodeValue value = .ok given ↔ Gives (.string key.name, value) key given := by
  constructor
  · intro decoded
    cases key with
    | minArity =>
      obtain ⟨rfl, fits⟩ := (decodeArity_eq_ok_iff legal plain).mp decoded
      exact .minArity fits
    | maxArity =>
      obtain ⟨rfl, fits⟩ := (decodeArity_eq_ok_iff legal plain).mp decoded
      exact .maxArity fits
    | output =>
      cases (decodePath_eq_ok_iff plain).mp decoded
      exact .output given
    | target =>
      cases (decodeTarget_eq_ok_iff plain).mp decoded
      cases given with
      | cpp => exact .cpp
      | rust => exact .rust
  · generalize named : (Yaml.Value.string key.name, value) = entry
    intro gives
    obtain rfl : value = entry.2 := congrArg Prod.snd named
    cases gives with
    | minArity fits => exact (decodeArity_eq_ok_iff legal plain).mpr ⟨rfl, fits⟩
    | maxArity fits => exact (decodeArity_eq_ok_iff legal plain).mpr ⟨rfl, fits⟩
    | output path => rfl
    | cpp => rfl
    | rust => rfl

/-- An entry gives a key one thing. -/
theorem Gives.unique {other : Yaml.Value × Yaml.Value} {first second : key.Value}
    (h₁ : Gives entry key first) (h₂ : Gives other key second) (same : entry = other) :
    first = second := by
  cases h₁ <;> cases h₂ <;> grind

theorem Gives.ne_null {given : key.Value} (gives : Gives entry key given) : entry.2 ≠ .null := by
  cases gives <;> nofun

theorem mapM_present_eq_ok_iff (legal : value.Legal) (plain : value.TagFree)
    {given? : Option key.Value} :
    (present? value).mapM key.decodeValue = .ok given? ↔
      value = .null ∧ given? = none ∨
        ∃ given, given? = some given ∧ Gives (.string key.name, value) key given := by
  by_cases null : value = .null
  · subst null
    constructor
    · rintro ⟨⟩
      exact .inl ⟨rfl, rfl⟩
    · rintro (⟨-, rfl⟩ | ⟨given, -, gives⟩)
      · rfl
      · exact absurd rfl gives.ne_null
  · have present : (present? value).mapM key.decodeValue = some <$> key.decodeValue value := by
      cases plain <;> first | rfl | exact absurd rfl null
    rw [present, map_eq_ok_iff]
    simp only [null, false_and, false_or, decodeValue_eq_ok_iff legal plain]
    exact exists_congr fun given => and_comm.trans (and_congr_left fun _ => eq_comm)

/-! ## Entries -/

theorem Key.isNamedBy_iff (plain : value.TagFree) :
    key.isNamedBy value = true ↔ value = .string key.name := by
  unfold isNamedBy
  rw [plain.untagged_eq]
  cases plain <;> simp

theorem Key.isNamedBy_name (key : Key) : key.isNamedBy (.string key.name) = true :=
  (isNamedBy_iff (.string key.name)).mpr rfl

theorem Key.exists_name_eq_iff {name : String} :
    (∃ key : Key, name = key.name) ↔ name ∈ ["min_arity", "max_arity", "output", "target"] := by
  constructor
  · rintro ⟨key, rfl⟩
    cases key <;> decide
  · intro known
    simp only [List.mem_cons, List.not_mem_nil, or_false] at known
    rcases known with rfl | rfl | rfl | rfl
    · exact ⟨.minArity, rfl⟩
    · exact ⟨.maxArity, rfl⟩
    · exact ⟨.output, rfl⟩
    · exact ⟨.target, rfl⟩

theorem Allowed.exists_name_eq (allowed : Allowed entry) :
    ∃ key : Key, entry.1 = .string key.name := by
  cases allowed with
  | given gives => exact ⟨_, gives.name_eq⟩
  | unset known =>
    obtain ⟨key, rfl⟩ := Key.exists_name_eq_iff.mpr known
    exact ⟨key, rfl⟩

/-- Names that are different values are names of different keys. -/
theorem keysDiffer_of_hasDistinctKeys (differ : Yaml.Value.hasDistinctKeys entries = true)
    (named : ∀ entry ∈ entries, ∃ key : Key, entry.1 = .string key.name) :
    KeysDiffer entries := by
  refine ⟨fun entry member => ?_, ?_⟩
  · obtain ⟨key, same⟩ := named entry member
    exact ⟨key, same ▸ key.isNamedBy_name⟩
  · refine (Yaml.Value.pairwise_of_hasDistinctKeys differ).imp_of_mem ?_
    intro first second here later apart key own
    obtain ⟨one, name⟩ := named first here
    obtain ⟨other, name'⟩ := named second later
    rw [Bool.eq_false_iff]
    intro again
    rw [name] at own apart
    rw [name'] at again apart
    cases Key.eq_of_isNamedBy own one.isNamedBy_name
    cases Key.eq_of_isNamedBy again other.isNamedBy_name
    simp [Yaml.Value.same] at apart

theorem entryOf?_eq_some_iff (differ : KeysDiffer entries) :
    entryOf? key entries = some entry ↔ entry ∈ entries ∧ key.isNamedBy entry.1 = true := by
  induction entries with
  | nil => simp [entryOf?]
  | cons head entries ih =>
    obtain ⟨own, named, once, differ⟩ := keysDiffer_cons_iff.mp differ
    by_cases same : key = own
    · subst same
      rw [entryOf?_cons_of_isNamedBy named, Option.some.injEq, List.mem_cons]
      constructor
      · rintro rfl
        exact ⟨.inl rfl, named⟩
      · rintro ⟨rfl | member, again⟩
        · rfl
        · exact absurd again (List.find?_eq_none.mp once entry member)
    · rw [entryOf?_cons_of_ne named same, ih differ, List.mem_cons]
      refine and_congr_left fun own => ⟨.inr, fun member => member.resolve_left ?_⟩
      rintro rfl
      exact same (Key.eq_of_isNamedBy own named)

/-! ## Documents -/

namespace Layer

section Mapping

variable (keys : ∀ entry ∈ entries, entry.1.TagFree) (plain : ∀ entry ∈ entries, entry.2.TagFree)
  (legal : ∀ entry ∈ entries, entry.2.Legal) (differ : KeysDiffer entries)
include keys plain legal differ

/-- A key is read without an error if its entry is allowed, and is set to what the
entry gives it. -/
theorem follows_iff :
    layer.Follows .empty entries key ↔
      (∀ entry ∈ entries, key.isNamedBy entry.1 = true → Allowed entry) ∧
        ∀ given, layer.get key = some given ↔ ∃ entry ∈ entries, Gives entry key given := by
  cases found : entryOf? key entries with
  | none =>
    have absent (entry : Yaml.Value × Yaml.Value) (member : entry ∈ entries) :
        ¬ key.isNamedBy entry.1 = true := List.find?_eq_none.mp found entry member
    have nothing (given : key.Value) : ¬ ∃ entry ∈ entries, Gives entry key given := by
      rintro ⟨entry, member, gives⟩
      exact absent entry member (gives.name_eq ▸ key.isNamedBy_name)
    rw [follows_iff_of_absent found, get_empty, Option.eq_none_iff_forall_ne_some]
    simp only [nothing, iff_false]
    exact (and_iff_right fun entry member own => absurd own (absent entry member)).symm
  | some entry =>
    obtain ⟨member, own⟩ := (entryOf?_eq_some_iff differ).mp found
    have only (other : Yaml.Value × Yaml.Value) (listed : other ∈ entries)
        (named : key.isNamedBy other.1 = true) : other = entry :=
      Option.some.inj (((entryOf?_eq_some_iff differ).mpr ⟨listed, named⟩).symm.trans found)
    have gives_iff (given : key.Value) :
        (∃ entry ∈ entries, Gives entry key given) ↔ Gives entry key given := by
      refine ⟨?_, fun gives => ⟨entry, member, gives⟩⟩
      rintro ⟨other, listed, gives⟩
      rwa [← only other listed (gives.name_eq ▸ key.isNamedBy_name)]
    obtain ⟨name, value⟩ := entry
    obtain rfl : name = .string key.name := (Key.isNamedBy_iff (keys _ member)).mp own
    have decodes : (present? value).mapM key.decodeValue = .ok (layer.get key) ↔ _ :=
      mapM_present_eq_ok_iff (legal _ member) (plain _ member)
    rw [follows_empty_iff, found, Option.bind_some, decodes]
    simp only [gives_iff]
    constructor
    · rintro (⟨null, unset⟩ | ⟨given, set, gives⟩)
      · refine ⟨fun other listed named => ?_, fun given => ?_⟩
        · cases only other listed named
          cases null
          exact .unset (Key.exists_name_eq_iff.mp ⟨key, rfl⟩)
        · rw [unset]
          exact iff_of_false nofun fun gives => gives.ne_null null
      · refine ⟨fun other listed named => ?_, fun other => ?_⟩
        · cases only other listed named
          exact .given gives
        · rw [set]
          constructor
          · rintro ⟨⟩
            exact gives
          · intro again
            exact congrArg some (gives.unique again rfl)
    · rintro ⟨allowed, sets⟩
      cases unset : layer.get key with
      | some given => exact .inr ⟨given, rfl, (sets given).mp unset⟩
      | none =>
        refine .inl ⟨?_, rfl⟩
        cases allowed _ member own with
        | unset known => rfl
        | @given _ other given gives =>
          cases Key.eq_of_isNamedBy own (gives.name_eq ▸ other.isNamedBy_name)
          rw [(sets given).mpr gives] at unset
          cases unset

end Mapping

section Document

variable {document : Yaml.Value} (legal : document.Legal) (plain : document.TagFree)
include legal plain

theorem states_iff_allowed (mapping : document = .mapping entries) :
    States document layer ↔ (∀ entry ∈ entries, Allowed entry) ∧
      ∀ key given, layer.get key = some given ↔ ∃ entry ∈ entries, Gives entry key given := by
  subst mapping
  cases legal with
  | mapping distinct _ legal =>
  cases plain with
  | mapping keys plain =>
  rw [states_iff_of_mapping rfl]
  constructor
  · rintro ⟨differ, follows⟩
    refine ⟨fun entry member => ?_, fun key =>
      ((follows_iff keys plain legal differ).mp (follows key)).2⟩
    obtain ⟨key, own⟩ := differ.1 entry member
    exact ((follows_iff keys plain legal differ).mp (follows key)).1 entry member own
  · rintro ⟨allowed, sets⟩
    have differ := keysDiffer_of_hasDistinctKeys distinct fun entry member =>
      (allowed entry member).exists_name_eq
    exact ⟨differ, fun key => (follows_iff keys plain legal differ).mpr
      ⟨fun entry member _ => allowed entry member, sets key⟩⟩

/-- Allowed entries set the keys of some layer. -/
theorem exists_layer (mapping : document = .mapping entries)
    (allowed : ∀ entry ∈ entries, Allowed entry) :
    ∃ layer : Layer, ∀ key given,
      layer.get key = some given ↔ ∃ entry ∈ entries, Gives entry key given := by
  subst mapping
  cases legal with
  | mapping distinct _ legal =>
  cases plain with
  | mapping keys plain =>
  have differ := keysDiffer_of_hasDistinctKeys distinct fun entry member =>
    (allowed entry member).exists_name_eq
  have each (key : Key) : ∃ given? : Option key.Value, ∀ given,
      given? = some given ↔ ∃ entry ∈ entries, Gives entry key given := by
    by_cases set : ∃ entry ∈ entries, ∃ given, Gives entry key given
    · obtain ⟨entry, member, given, gives⟩ := set
      refine ⟨some given, fun other => ⟨?_, ?_⟩⟩
      · rintro ⟨⟩
        exact ⟨entry, member, gives⟩
      · rintro ⟨other, listed, again⟩
        have named := key.isNamedBy_name
        have first := (entryOf?_eq_some_iff differ).mpr ⟨member, gives.name_eq ▸ named⟩
        have second := (entryOf?_eq_some_iff differ).mpr ⟨listed, again.name_eq ▸ named⟩
        exact congrArg some (gives.unique again (Option.some.inj (first.symm.trans second)))
    · refine ⟨none, fun given => iff_of_false nofun ?_⟩
      rintro ⟨entry, member, gives⟩
      exact set ⟨entry, member, given, gives⟩
  choose settings sets using each
  refine ⟨⟨settings .minArity, settings .maxArity, settings .output, settings .target⟩,
    fun key => ?_⟩
  cases key <;> exact sets _

end Document

/-- A text that reads as a value without tags is a settings file exactly when the
value is null, or a mapping of allowed entries. What its entries give to the keys
is what the layer has, in whatever order they stand. In all other cases the error
is that of an invalid settings file. -/
theorem read_accepts {document : Yaml.Value} (read : Yaml.Value.read text = .ok document)
    (plain : document.TagFree) :
    ((∃ layer, Layer.read text = .ok layer) ↔
      document = .null ∨
        ∃ entries, document = .mapping entries ∧ ∀ entry ∈ entries, Allowed entry) ∧
    (∀ layer, Layer.read text = .ok layer →
      document = .null ∧ layer = ⟨none, none, none, none⟩ ∨
        ∃ entries, document = .mapping entries ∧ ∀ key given,
          layer.get key = some given ↔ ∃ entry ∈ entries, Gives entry key given) ∧
    ∀ failure, Layer.read text = .error failure →
      ∃ cause, failure = .settings (.invalidFile cause) := by
  have legal := Yaml.Value.legal_of_read read
  have states (layer : Layer) : Layer.read text = .ok layer ↔ States document layer := by
    rw [read_eq_ok_iff]
    constructor
    · rintro ⟨_, again, states⟩
      rwa [Except.ok.inj (read.symm.trans again)]
    · exact fun states => ⟨document, read, states⟩
  simp only [states]
  refine ⟨⟨?accepted, ?accepts⟩, ?sets, ?refuses⟩
  case accepted =>
    rintro ⟨layer, stated⟩
    rcases stated.wellFormed with null | ⟨entries, mapping, -⟩
    · exact .inl (plain.untagged_eq.symm.trans null)
    · have mapping := plain.untagged_eq.symm.trans mapping
      exact .inr ⟨entries, mapping, ((states_iff_allowed legal plain mapping).mp stated).1⟩
  case accepts =>
    rintro (rfl | ⟨entries, mapping, allowed⟩)
    · exact ⟨.empty, (states_iff_of_null rfl).mpr rfl⟩
    · obtain ⟨layer, sets⟩ := exists_layer legal plain mapping allowed
      exact ⟨layer, (states_iff_allowed legal plain mapping).mpr ⟨allowed, sets⟩⟩
  case sets =>
    intro layer stated
    rcases stated.wellFormed with null | ⟨entries, mapping, -⟩
    · exact .inl ⟨plain.untagged_eq.symm.trans null, (states_iff_of_null null).mp stated⟩
    · have mapping := plain.untagged_eq.symm.trans mapping
      exact .inr ⟨entries, mapping, ((states_iff_allowed legal plain mapping).mp stated).2⟩
  case refuses =>
    intro failure refused
    unfold Layer.read at refused
    rw [read] at refused
    dsimp only at refused
    split at refused
    · cases refused
    · split at refused
      · next cause invalid =>
        cases refused
        exact ⟨cause, rfl⟩
      · cases refused

/-- Whether a text reads as a value without tags can be computed. -/
theorem exists_tagFree_of_read (text : String)
    (h : (Yaml.Value.read text).toOption.map Yaml.Value.isTagFree = some true) :
    ∃ document, Yaml.Value.read text = .ok document ∧ document.TagFree := by
  obtain ⟨document, read, plain⟩ := Option.map_eq_some_iff.mp h
  exact ⟨document, toOption_eq_some_iff.mp read, .of_isTagFree document plain⟩

theorem read_accepts_keys_in_any_order :
    (∃ layer entries,
      Layer.read "target: rust\nmax_arity: 18446744073709551615\noutput: ~\n" = .ok layer ∧
      layer = ⟨none, some 18446744073709551615, none, some .rust⟩ ∧
      Yaml.Value.read "target: rust\nmax_arity: 18446744073709551615\noutput: ~\n" =
        .ok (.mapping entries) ∧
      (∀ entry ∈ entries, Allowed entry) ∧
      ∃ entry ∈ entries, Gives entry .maxArity (18446744073709551615 : Nat)) ∧
    ∃ cause, Layer.read "min_arity: 1\nmax_arity: '8'" =
      .error (.settings (.invalidFile cause)) := by
  constructor
  · have done : Layer.read "target: rust\nmax_arity: 18446744073709551615\noutput: ~\n" =
        .ok ⟨none, some 18446744073709551615, none, some .rust⟩ :=
      toOption_eq_some_iff.mp (by decide +kernel)
    obtain ⟨document, read, plain⟩ := exists_tagFree_of_read
      "target: rust\nmax_arity: 18446744073709551615\noutput: ~\n" (by decide +kernel)
    obtain ⟨accepts, sets, -⟩ := read_accepts read plain
    rcases sets _ done with ⟨-, unset⟩ | ⟨entries, rfl, gives⟩
    · cases unset
    · rcases accepts.mp ⟨_, done⟩ with ⟨⟨⟩⟩ | ⟨_, ⟨⟩, allowed⟩
      exact ⟨_, entries, done, rfl, read, allowed, (gives .maxArity _).mp rfl⟩
  · obtain ⟨document, read, plain⟩ :=
      exists_tagFree_of_read "min_arity: 1\nmax_arity: '8'" (by decide +kernel)
    obtain ⟨-, -, refuses⟩ := read_accepts read plain
    have refused : (Layer.read "min_arity: 1\nmax_arity: '8'").toOption = none := by
      decide +kernel
    cases done : Layer.read "min_arity: 1\nmax_arity: '8'" with
    | error failure =>
      obtain ⟨cause, rfl⟩ := refuses failure done
      exact ⟨cause, rfl⟩
    | ok layer =>
      rw [done] at refused
      cases refused

end Layer

end Settings

end FactoryOverloads
