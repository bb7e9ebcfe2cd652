import FactoryOverloads.Proofs.FileTree.Walking
import FactoryOverloads.Yaml.Document

/-!
# What has been read

The values that a text can mean (`Value.Legal`): all integers in them fit a word,
with or without a sign, and no mapping in them has a key twice. Every value that
is read is of this kind (`Value.legal_of_read`).

Scalars are where integers come from (`Scalar.legal_of_value`), and a mapping is
refused where a key repeats. A node is given its value level by level, so that
the kind of its value follows by induction on the depth that is left
(`Linked.value_yields`).
-/

namespace FactoryOverloads.Yaml

attribute [local instance (high)] instPowNat

/-- The integers in the value fit 64 bits, and the keys of every mapping in it differ. -/
inductive Value.Legal : Value → Prop
  | null : Legal .null
  | bool (truth : Bool) : Legal (.bool truth)
  | integer {n : Int} (least : -(2 ^ (63 : Nat)) ≤ n) (most : n < 2 ^ (64 : Nat)) :
      Legal (.integer n)
  | real (number : Binary64) : Legal (.real number)
  | string (text : String) : Legal (.string text)
  | sequence {items : List Value} (each : ∀ item ∈ items, Legal item) : Legal (.sequence items)
  | mapping {entries : List (Value × Value)} (differ : hasDistinctKeys entries = true)
      (keys : ∀ entry ∈ entries, Legal entry.1) (values : ∀ entry ∈ entries, Legal entry.2) :
      Legal (.mapping entries)
  | tagged (tag : String) {value : Value} (inner : Legal value) : Legal (.tagged tag value)

/-! ## Scalars -/

namespace Scalar

variable {text : String} {value : Value}

theorem legal_of_integer {n : Int} (h : integer text = .ok (some n)) :
    (Value.integer n).Legal := by
  unfold integer at h
  split at h
  · cases h
  · next m spelled =>
    cases size : range m with
    | word =>
      rw [size] at h
      cases h
      unfold range at size
      split at size
      · next fits =>
        simp only [Bool.and_eq_true, decide_eq_true_eq] at fits
        exact .integer fits.1 fits.2
      · split at size <;> cases size
    | doubleWord =>
      rw [size] at h
      cases h
    | beyond =>
      rw [size] at h
      cases h

theorem legal_of_plain (h : plain text = .ok value) : value.Legal := by
  unfold plain at h
  split at h
  · cases h
    exact .null
  split at h
  · cases h
    exact .bool _
  obtain ⟨spelled, read, h⟩ := bind_eq_ok_iff.mp h
  split at h
  · cases h
    exact legal_of_integer read
  split at h
  · split at h
    · cases h
      exact .real _
    · cases h
      exact .string text
  · cases h
    exact .string text

theorem required_eq_ok_iff {α : Type} {form : α → Value} {spelled : Option α} :
    required form spelled = .ok value ↔ ∃ a, spelled = some a ∧ form a = value := by
  cases spelled <;> simp [required]

theorem legal_of_value {tag : Option Tag} {isPlain : Bool}
    (h : Scalar.value tag text isPlain = .ok value) : value.Legal := by
  unfold Scalar.value at h
  split at h
  · split at h
    · exact legal_of_plain h
    · cases h
      exact .string text
  split at h
  · obtain ⟨truth, -, rfl⟩ := required_eq_ok_iff.mp h
    exact .bool truth
  split at h
  · obtain ⟨spelled, read, h⟩ := bind_eq_ok_iff.mp h
    obtain ⟨n, rfl, rfl⟩ := required_eq_ok_iff.mp h
    exact legal_of_integer read
  split at h
  · obtain ⟨number, -, rfl⟩ := required_eq_ok_iff.mp h
    exact .real number
  split at h
  · obtain ⟨-, -, rfl⟩ := required_eq_ok_iff.mp h
    exact .null
  split at h
  · exact legal_of_plain h
  · cases h
    exact .string text

end Scalar

/-! ## Nodes -/

namespace Linked

variable {α β : Type} {P : α → Prop} {Q : β → Prop} {anchors : Anchors} {limit : Nat}

/-- What comes of the computation, if anything does, has a property. -/
def Yields (P : α → Prop) (computation : Expansion α) : Prop :=
  ∀ before value after, computation before = .ok (value, after) → P value

theorem yields_pure {value : α} (h : P value) : Yields P (pure value : Expansion α) := by
  rintro _ _ _ ⟨⟩
  exact h

theorem yields_throw (problem : Problem) : Yields P (throw problem : Expansion α) := by
  rintro _ _ _ ⟨⟩

theorem yields_liftM {step : Except Problem α} (h : ∀ value, step = .ok value → P value) :
    Yields P (liftM step : Expansion α) := by
  intro before value after run
  obtain ⟨_, done, ⟨⟩⟩ := bind_eq_ok_iff.mp run
  exact h value done

theorem yields_bind {computation : Expansion α} {next : α → Expansion β}
    (first : Yields P computation) (second : ∀ value, P value → Yields Q (next value)) :
    Yields Q (computation >>= next) := by
  intro before value after run
  obtain ⟨⟨middle, between⟩, done, rest⟩ := bind_eq_ok_iff.mp run
  exact second middle (first _ _ _ done) _ _ _ rest

theorem yields_mapM {f : α → Expansion β} (each : ∀ a, Yields Q (f a)) (items : List α) :
    Yields (fun values => ∀ value ∈ values, Q value) (items.mapM f) := by
  induction items with
  | nil => exact yields_pure nofun
  | cons item items ih =>
    rw [List.mapM_cons]
    exact yields_bind (each item) fun value here => yields_bind ih fun values later =>
      yields_pure (List.forall_mem_cons.mpr ⟨here, later⟩)

theorem legal_wrap (tag : Option Tag) {value : Value} (h : value.Legal) :
    (wrap tag value).Legal := by
  unfold wrap
  split
  · exact .tagged _ h
  · exact h

theorem valueWith_yields {inner : Option (Linked → Expansion Value)}
    (deeper : ∀ compute ∈ inner, ∀ linked, Yields Value.Legal (compute linked))
    (linked : Linked) : Yields Value.Legal (valueWith anchors limit inner linked) := by
  refine yields_bind (P := fun _ => True) (fun _ _ _ _ => trivial) fun linked _ => ?_
  split
  · exact yields_bind (yields_liftM fun _ => Scalar.legal_of_value) fun value legal =>
      yields_pure (legal_wrap _ legal)
  · next compute =>
    exact yields_bind (yields_mapM (deeper compute rfl) _) fun items each =>
      yields_pure (legal_wrap _ (.sequence each))
  · next compute =>
    have entry (pair : Linked × Linked) : Yields (fun e : Value × Value => e.1.Legal ∧ e.2.Legal)
        (do pure (← compute pair.1, ← compute pair.2)) :=
      yields_bind (deeper compute rfl pair.1) fun key first =>
        yields_bind (deeper compute rfl pair.2) fun value second => yields_pure ⟨first, second⟩
    refine yields_bind (yields_mapM entry _) fun entries each => ?_
    split
    · next differ =>
      exact yields_pure (legal_wrap _
        (.mapping differ (fun e mem => (each e mem).1) fun e mem => (each e mem).2))
    · exact yields_throw _
  · exact yields_throw _
  · exact yields_throw _

/-- By induction on the depth that is left. -/
theorem value_yields (depth : Nat) (linked : Linked) :
    Yields Value.Legal (value anchors limit depth linked) := by
  induction depth generalizing linked with
  | zero =>
    exact valueWith_yields
      (fun compute absent => absurd absent (Option.not_mem_none compute)) linked
  | succ depth ih =>
    refine valueWith_yields (fun compute same linked => ?_) linked
    cases same
    exact ih linked

end Linked

theorem Node.legal_of_value {node : Node} {value : Value} (h : node.value = .ok value) :
    value.Legal := by
  obtain ⟨⟨linked, anchors⟩, -, h⟩ := bind_eq_ok_iff.mp h
  obtain ⟨⟨_, after⟩, run, rfl⟩ := map_eq_ok_iff.mp h
  exact Linked.value_yields _ _ _ _ _ run

/-- What is read from a text has words for integers, and keys that differ. -/
theorem Value.legal_of_read {text : String} {value : Value} (h : Value.read text = .ok value) :
    value.Legal := by
  obtain ⟨tokens, -, h⟩ := bind_eq_ok_iff.mp h
  obtain ⟨node?, -, h⟩ := bind_eq_ok_iff.mp h
  split at h
  · cases h
    exact .null
  · exact Node.legal_of_value h

end FactoryOverloads.Yaml
