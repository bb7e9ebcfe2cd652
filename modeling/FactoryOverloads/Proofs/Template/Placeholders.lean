import Mathlib.Data.List.Find
import FactoryOverloads.Proofs.Template.Substitution

/-!
# What a template asks for

The names that a template lists are those whose placeholders stand in it, each
once, in the order of their first places (`mem_placeholders`,
`pairwise_placeholders`). Listing and rendering go over the same segments: they are
rendered when all their names are bound, and the first one that is not is the error
(`foldlM_append_eq`). That name is the first of the list, too, since leaving out
what has occurred before does not change which name is the first of a kind
(`find?_eraseDups`). Hence the list is all that rendering wants to know of bindings
(`placeholders_govern_rendering`).
-/

namespace FactoryOverloads.Template

/-! ## First occurrences -/

section FirstOccurrences

variable {α : Type} [DecidableEq α]

/-- An element at the end is left out if it has occurred before. -/
theorem eraseDups_concat (items : List α) (last : α) :
    (items ++ [last]).eraseDups =
      if last ∈ items then items.eraseDups else items.eraseDups ++ [last] := by
  rw [List.eraseDups_append]
  by_cases before : last ∈ items
  · simp [List.removeAll, before]
  · simp [List.removeAll, before, List.eraseDups_cons]

/-- The first element of a kind stays the first. -/
theorem find?_eraseDups (p : α → Bool) (items : List α) :
    items.eraseDups.find? p = items.find? p := by
  induction items using List.reverseRecOn with
  | nil => rfl
  | append_singleton items last ih =>
    rw [eraseDups_concat, List.find?_append]
    split
    · next before =>
      rw [ih]
      cases found : items.find? p with
      | some item => rfl
      | none => simp [List.find?_eq_none.mp found last before]
    · rw [List.find?_append, ih]

/-- The first is marked somewhere before the second is marked anywhere. -/
def PrecedesIn (marks : List (Nat × α)) (first second : α) : Prop :=
  ∃ i, (i, first) ∈ marks ∧ ∀ j, (j, second) ∈ marks → i < j

/-- Marks that are listed from left to right have their elements in the order of the
first marks. -/
theorem pairwise_eraseDups {marks : List (Nat × α)}
    (sorted : marks.Pairwise fun first second => first.1 < second.1) :
    (marks.map Prod.snd).eraseDups.Pairwise (PrecedesIn marks) := by
  induction marks using List.reverseRecOn with
  | nil => exact .nil
  | append_singleton marks last ih =>
    obtain ⟨position, item⟩ := last
    obtain ⟨sorted, -, before⟩ := List.pairwise_append.mp sorted
    have before (i : Nat) (first : α) (marked : (i, first) ∈ marks) : i < position :=
      before _ marked _ (List.mem_singleton_self _)
    have extended : (marks.map Prod.snd).eraseDups.Pairwise
        (PrecedesIn (marks ++ [(position, item)])) := by
      refine (ih sorted).imp fun {first second} ⟨i, marked, earliest⟩ => ?_
      refine ⟨i, List.mem_append_left _ marked, fun j there => ?_⟩
      rcases List.mem_append.mp there with there | new
      · exact earliest j there
      · cases List.mem_singleton.mp new
        exact before i first marked
    rw [List.map_append, List.map_singleton, eraseDups_concat]
    split
    · exact extended
    · next new =>
      refine List.pairwise_append.mpr ⟨extended, List.pairwise_singleton _ _, ?_⟩
      intro first member second isNew
      cases List.mem_singleton.mp isNew
      obtain ⟨⟨i, _⟩, marked, rfl⟩ := List.mem_map.mp (List.mem_eraseDups.mp member)
      refine ⟨i, List.mem_append_left _ marked, fun j there => ?_⟩
      rcases List.mem_append.mp there with there | there
      · exact absurd (List.mem_map_of_mem (f := Prod.snd) there) new
      · cases List.mem_singleton.mp there
        exact before i _ marked

end FirstOccurrences

/-! ## The list of names -/

/-- The placeholder of the first name stands somewhere before that of the second
stands anywhere. -/
def Precedes (template first second : String) : Prop :=
  ∃ i, PlaceholderAt template i first ∧ ∀ j, PlaceholderAt template j second → i < j

theorem mem_placeholders {template name : String} :
    name ∈ placeholders template ↔ ∃ position, PlaceholderAt template position name := by
  rw [placeholders, List.mem_eraseDups, mem_filterMap_name?]

theorem pairwise_placeholders (template : String) :
    (placeholders template).Pairwise (Precedes template) := by
  rw [placeholders, ← map_snd_marks 0]
  refine (pairwise_eraseDups (pairwise_marks 0 _)).imp fun {first second} precedes => ?_
  simpa only [PrecedesIn, Precedes, mem_marks_segments] using precedes

theorem nodup_placeholders (template : String) : (placeholders template).Nodup := by
  refine (pairwise_placeholders template).imp ?_
  rintro first _ ⟨i, there, before⟩ rfl
  exact Nat.lt_irrefl i (before i there)

/-! ## Rendering -/

/-- The list of names decides what comes of rendering. -/
theorem render_eq (template : String) (bindings : Bindings) :
    render template bindings =
      match (placeholders template).find? (lacks bindings) with
      | some name => .error (.unbound name)
      | none => .ok (String.join ((segments template).map (Segment.fill (valueOf bindings)))) := by
  rw [placeholders, find?_eraseDups]
  exact foldlM_append_eq bindings (segments template)

theorem render_eq_ok_iff {template : String} {bindings : Bindings} :
    (∃ text, render template bindings = .ok text) ↔
      ∀ name ∈ placeholders template, (bindings.find? name).isSome = true := by
  rw [render_eq]
  cases found : (placeholders template).find? (lacks bindings) with
  | some name =>
    have absent := List.find?_some found
    simp only [lacks, Option.isNone_iff_eq_none] at absent
    constructor
    · rintro ⟨text, ⟨⟩⟩
    · intro bound
      have present := bound name (List.mem_of_find?_eq_some found)
      rw [absent] at present
      cases present
  | none =>
    refine ⟨fun _ name listed => ?_, fun _ => ⟨_, rfl⟩⟩
    simpa [lacks, ← Option.isSome_iff_ne_none] using List.find?_eq_none.mp found name listed

/-- Bindings that agree on the names of a template are rendered alike. -/
theorem render_congr {template : String} {first second : Bindings}
    (same : ∀ name ∈ placeholders template, first.find? name = second.find? name) :
    render template first = render template second := by
  have lacking : (placeholders template).find? (lacks first) =
      (placeholders template).find? (lacks second) :=
    List.find?_congr fun name listed => by rw [lacks, lacks, same name listed]
  rw [render_eq, render_eq, lacking, join_fill_congr fun name listed => ?_]
  rw [valueOf, valueOf, same name (List.mem_eraseDups.mpr listed)]

/-- The list of a template holds the names whose placeholders stand in it, each once
and in the order of their first places. Rendering succeeds exactly when all of them
are bound, fails for the first one that is not, and depends on their values only. -/
theorem placeholders_govern_rendering (template : String) :
    (∀ name, name ∈ placeholders template ↔ ∃ position, PlaceholderAt template position name) ∧
    (placeholders template).Nodup ∧
    (placeholders template).Pairwise (Precedes template) ∧
    (∀ bindings : Bindings,
      ((∃ text, render template bindings = .ok text) ↔
        ∀ name ∈ placeholders template, (bindings.find? name).isSome = true) ∧
      ∀ before name after, placeholders template = before ++ name :: after →
        (∀ bound ∈ before, (bindings.find? bound).isSome = true) →
        bindings.find? name = none →
        render template bindings = .error (.unbound name)) ∧
    ∀ first second : Bindings,
      (∀ name ∈ placeholders template, first.find? name = second.find? name) →
      render template first = render template second := by
  refine ⟨fun name => mem_placeholders, nodup_placeholders template,
    pairwise_placeholders template, fun bindings => ⟨render_eq_ok_iff, ?_⟩,
    fun first second => render_congr⟩
  intro before name after listed bound absent
  have first : (placeholders template).find? (lacks bindings) = some name := by
    refine List.find?_eq_some_iff_append.mpr ⟨by simp [lacks, absent], before, after, listed, ?_⟩
    intro other member
    simpa [lacks, ← Option.isSome_iff_ne_none] using bound other member
  rw [render_eq, first]

theorem placeholders_govern_rendering_of_two_unbound :
    render "$\x7bb\x7d$\x7ba\x7d$\x7bb\x7d$\x7bc_1\x7d" ⟨[("b", "x"), ("d", "y")]⟩ =
        .error (.unbound "a") ∧
      render "$\x7bb\x7d" ⟨[("b", "x"), ("d", "y")]⟩ = render "$\x7bb\x7d" ⟨[("b", "x")]⟩ := by
  obtain ⟨-, -, -, rendering, -⟩ :=
    placeholders_govern_rendering "$\x7bb\x7d$\x7ba\x7d$\x7bb\x7d$\x7bc_1\x7d"
  obtain ⟨-, -, -, -, agreement⟩ := placeholders_govern_rendering "$\x7bb\x7d"
  exact ⟨(rendering _).2 ["b"] "a" ["c_1"] (by decide) (by decide) (by decide),
    agreement _ _ (by decide)⟩

end FactoryOverloads.Template
