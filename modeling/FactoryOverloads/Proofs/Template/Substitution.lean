import Mathlib.Data.List.Sort
import FactoryOverloads.Proofs.Template.Occurrence

/-!
# Rendering is simultaneous substitution

A template can be taken apart around its placeholders in one way only
(`Split.Around`): into the texts between them, and their names. Rendering puts the
bound texts between those texts and changes nothing else
(`render_is_substitution`).

The split is read off the segments of the template (`Split.ofSegments`): it has
its placeholders where they have theirs (`Split.marks_segments`), and what they are
filled with fills the split (`Split.fill_eq_join`). There is no other one, because
the places of the placeholders, read from left to right, and the text fix the
pieces (`Split.ext_of_places`).
-/

namespace FactoryOverloads.Template

/-- A text in pieces: texts with a name behind each, and the text behind the last
name. -/
structure Split where
  pieces : List (String × String)
  last : String
  deriving DecidableEq, Repr

namespace Split

/-- The names in a split. -/
def names (split : Split) : List String := split.pieces.map Prod.snd

/-- The texts of a split with a value in place of each name. -/
def fill (value : String → String) (split : Split) : String :=
  String.join (split.pieces.map fun (text, name) => text ++ value name) ++ split.last

/-- Where the placeholders of the pieces stand when the first piece stands at a
given place. -/
def placesFrom : (start : Nat) → List (String × String) → List (Nat × String)
  | _, [] => []
  | start, (text, name) :: pieces =>
    (start + text.length, name) ::
      placesFrom (start + text.length + (hole name).length) pieces

/-- The split takes a template apart around all its placeholders, and around
nothing else. -/
structure Around (split : Split) (template : String) : Prop where
  text : split.fill hole = template
  places : ∀ position name,
    PlaceholderAt template position name ↔ (position, name) ∈ placesFrom 0 split.pieces

/-! ## Segments of a split -/

/-- The segments of a text that is copied. -/
def copied (text : String) : List Segment := text.toList.map .character

/-- The segments that a split spells out. -/
def segments (split : Split) : List Segment :=
  (split.pieces.flatMap fun (text, name) => copied text ++ [.placeholder name]) ++
    copied split.last

/-- The split with one character more in front. -/
def push (c : Char) : Split → Split
  | ⟨[], last⟩ => ⟨[], String.ofList (c :: last.toList)⟩
  | ⟨(text, name) :: pieces, last⟩ => ⟨(String.ofList (c :: text.toList), name) :: pieces, last⟩

/-- The split that spells out segments. -/
def ofSegments : List Segment → Split
  | [] => ⟨[], ""⟩
  | .character c :: segments => push c (ofSegments segments)
  | .placeholder name :: segments =>
    ⟨("", name) :: (ofSegments segments).pieces, (ofSegments segments).last⟩

theorem segments_push (c : Char) (split : Split) :
    (push c split).segments = .character c :: split.segments := by
  obtain ⟨_ | ⟨⟨text, name⟩, pieces⟩, last⟩ := split <;> simp [push, segments, copied]

theorem segments_ofSegments (segments : List Segment) :
    (ofSegments segments).segments = segments := by
  induction segments with
  | nil => rfl
  | cons segment segments ih =>
    cases segment with
    | character c => rw [ofSegments, segments_push, ih]
    | placeholder name => exact congrArg (.placeholder name :: ·) ih

theorem segments_cons (text name : String) (pieces : List (String × String)) (last : String) :
    segments ⟨(text, name) :: pieces, last⟩ =
      copied text ++ .placeholder name :: segments ⟨pieces, last⟩ := by
  simp [segments]

theorem marks_copied_append (start : Nat) (text : String) (segments : List Segment) :
    marks start (copied text ++ segments) = marks (start + text.length) segments := by
  rw [copied, ← String.length_toList]
  induction text.toList generalizing start with
  | nil => rfl
  | cons c text ih =>
    rw [List.length_cons, Nat.add_comm text.length, ← Nat.add_assoc]
    exact ih (start + 1)

/-- A split has its placeholders where its segments have theirs. -/
theorem marks_segments (start : Nat) (split : Split) :
    marks start split.segments = placesFrom start split.pieces := by
  obtain ⟨pieces, last⟩ := split
  induction pieces generalizing start with
  | nil =>
    have copies := marks_copied_append start last []
    rwa [List.append_nil] at copies
  | cons piece pieces ih =>
    rw [segments_cons, marks_copied_append, marks, ih, placesFrom]

theorem map_snd_placesFrom (start : Nat) (pieces : List (String × String)) :
    (placesFrom start pieces).map Prod.snd = pieces.map Prod.snd := by
  induction pieces generalizing start with
  | nil => rfl
  | cons piece pieces ih => exact congrArg (piece.2 :: ·) (ih _)

theorem Around.mem_names {split : Split} {template name : String} {position : Nat}
    (h : split.Around template) (there : PlaceholderAt template position name) :
    name ∈ split.names := by
  rw [names, ← map_snd_placesFrom 0]
  exact List.mem_map_of_mem ((h.places position name).mp there)

/-! ## One split only -/

theorem pairwise_placesFrom (start : Nat) (split : Split) :
    (placesFrom start split.pieces).Pairwise fun first second => first.1 < second.1 := by
  rw [← marks_segments]
  exact pairwise_marks start split.segments

theorem fill_cons (value : String → String) (text name : String)
    (pieces : List (String × String)) (last : String) :
    fill value ⟨(text, name) :: pieces, last⟩ =
      text ++ (value name ++ fill value ⟨pieces, last⟩) := by
  simp [fill, String.append_assoc]

/-- Splits of one text with their placeholders at the same places are the same. -/
theorem ext_of_places {first second : Split} (start : Nat)
    (text : first.fill hole = second.fill hole)
    (places : placesFrom start first.pieces = placesFrom start second.pieces) : first = second := by
  obtain ⟨pieces₁, last₁⟩ := first
  obtain ⟨pieces₂, last₂⟩ := second
  induction pieces₁ generalizing start pieces₂ with
  | nil =>
    cases pieces₂ with
    | nil => simpa [fill] using text
    | cons piece pieces₂ => cases places
  | cons piece₁ pieces₁ ih =>
    cases pieces₂ with
    | nil => cases places
    | cons piece₂ pieces₂ =>
      obtain ⟨text₁, name₁⟩ := piece₁
      obtain ⟨text₂, name₂⟩ := piece₂
      simp only [placesFrom, List.cons.injEq, Prod.mk.injEq, Nat.add_left_cancel_iff] at places
      obtain ⟨⟨sameLength, rfl⟩, samePlaces⟩ := places
      rw [fill_cons, fill_cons, ← String.toList_inj] at text
      simp only [String.toList_append] at text
      rw [← String.length_toList, ← String.length_toList] at sameLength
      obtain ⟨sameText, rest⟩ := List.append_inj text sameLength
      rw [List.append_cancel_left_eq] at rest
      cases String.toList_inj.mp sameText
      cases ih _ pieces₂ (String.toList_inj.mp rest) samePlaces
      rfl

theorem Around.unique {first second : Split} {template : String} (h₁ : first.Around template)
    (h₂ : second.Around template) : first = second := by
  refine ext_of_places 0 (h₁.text.trans h₂.text.symm) ?_
  have : Std.Irrefl fun first second : Nat × String => first.1 < second.1 :=
    ⟨fun _ => Nat.lt_irrefl _⟩
  have : Std.Antisymm fun first second : Nat × String => first.1 < second.1 :=
    ⟨fun _ _ before after => absurd before (Nat.lt_asymm after)⟩
  refine (pairwise_placesFrom 0 first).eq_of_mem_iff (pairwise_placesFrom 0 second) ?_
  exact fun (position, name) => (h₁.places position name).symm.trans (h₂.places position name)

end Split

/-! ## Texts of segments -/

/-- What a segment stands for, with a value in place of each name. -/
def Segment.fill (value : String → String) : Segment → String
  | .character c => String.singleton c
  | .placeholder name => value name

theorem join_fill_copied (value : String → String) (text : String) :
    String.join ((Split.copied text).map (Segment.fill value)) = text := by
  apply String.toList_inj.mp
  rw [String.toList_join, Split.copied]
  induction text.toList with
  | nil => rfl
  | cons c text ih =>
    rw [List.map_cons, List.map_cons, List.flatMap_cons, ih, Segment.fill, String.toList_singleton]
    rfl

/-- A split is filled as its segments are. -/
theorem Split.fill_eq_join (value : String → String) (split : Split) :
    split.fill value = String.join (split.segments.map (Segment.fill value)) := by
  obtain ⟨pieces, last⟩ := split
  induction pieces with
  | nil =>
    have copies := join_fill_copied value last
    simpa [fill, segments] using copies.symm
  | cons piece pieces ih =>
    rw [fill_cons, ih, segments_cons, List.map_append, String.join_append, join_fill_copied,
      List.map_cons, String.join_cons]
    rfl

/-- Reading loses nothing. -/
theorem join_fill_segments (template : String) :
    String.join ((segments template).map (Segment.fill hole)) = template := by
  apply String.toList_inj.mp
  rw [segments]
  induction template.toList using reading_induction with
  | nil => rfl
  | character c rest inert ih =>
    rw [segmentsAfter_character inert, List.map_cons, String.join_cons, String.toList_append, ih,
      Segment.fill, String.toList_singleton]
    rfl
  | placeholder name rest legal ih =>
    rw [segmentsAfter_placeholder legal, List.map_cons, String.join_cons, String.toList_append, ih]
    rfl

theorem join_fill_congr {first second : String → String} {segments : List Segment}
    (same : ∀ name ∈ segments.filterMap Segment.name?, first name = second name) :
    String.join (segments.map (Segment.fill first)) =
      String.join (segments.map (Segment.fill second)) := by
  refine congrArg String.join (List.map_congr_left fun segment member => ?_)
  cases segment with
  | character c => rfl
  | placeholder name => exact same name (List.mem_filterMap.mpr ⟨_, member, rfl⟩)

/-! ## Rendering -/

/-- Whether nothing is bound to a name. -/
def lacks (bindings : Bindings) (name : String) : Bool := (bindings.find? name).isNone

/-- What is put in place of a name. -/
def valueOf (bindings : Bindings) (name : String) : String := (bindings.find? name).getD ""

/-- A segment is an error if it is a name without a binding. -/
theorem append_eq (bindings : Bindings) (segment : Segment) :
    append bindings "" segment =
      match segment.name?.filter (lacks bindings) with
      | some name => .error (.unbound name)
      | none => .ok (segment.fill (valueOf bindings)) := by
  cases segment with
  | character c => simp [append, Segment.name?, Segment.fill]
  | placeholder name =>
    cases bound : bindings.find? name <;>
      simp [append, Segment.name?, Segment.fill, Option.filter_some, lacks, valueOf, bound]

theorem find?_filterMap_name?_cons (p : String → Bool) (segment : Segment)
    (segments : List Segment) :
    ((segment :: segments).filterMap Segment.name?).find? p =
      (segment.name?.filter p).or ((segments.filterMap Segment.name?).find? p) := by
  cases segment with
  | character c => rfl
  | placeholder name =>
    show (name :: segments.filterMap Segment.name?).find? p = _
    cases found : p name <;> simp [Segment.name?, Option.filter_some, found]

/-- The first name without a binding is the error. If there is none, every name is
replaced. -/
theorem foldlM_append_eq (bindings : Bindings) (segments : List Segment) :
    segments.foldlM (append bindings) "" =
      match (segments.filterMap Segment.name?).find? (lacks bindings) with
      | some name => .error (.unbound name)
      | none => .ok (String.join (segments.map (Segment.fill (valueOf bindings)))) := by
  induction segments with
  | nil => rfl
  | cons segment segments ih =>
    rw [List.foldlM_cons, append_eq, find?_filterMap_name?_cons]
    cases segment.name?.filter (lacks bindings) with
    | some name => rfl
    | none =>
      show segments.foldlM (append bindings) (segment.fill (valueOf bindings)) = _
      rw [foldlM_append_eq_map, ih, Option.none_or]
      cases (segments.filterMap Segment.name?).find? (lacks bindings) <;>
        simp [Functor.map, Except.map]

theorem around_ofSegments (template : String) :
    (Split.ofSegments (segments template)).Around template where
  text := by rw [Split.fill_eq_join, Split.segments_ofSegments, join_fill_segments]
  places position name := by
    rw [← Split.marks_segments, Split.segments_ofSegments, mem_marks_segments]

/-- The names of the segments are those whose placeholders stand somewhere. -/
theorem mem_filterMap_name? {template name : String} :
    name ∈ (segments template).filterMap Segment.name? ↔
      ∃ position, PlaceholderAt template position name := by
  simp only [← map_snd_marks 0, List.mem_map, ← mem_marks_segments]
  constructor
  · rintro ⟨⟨position, _⟩, marked, rfl⟩
    exact ⟨position, marked⟩
  · rintro ⟨position, marked⟩
    exact ⟨_, marked, rfl⟩

theorem render_eq_fill {template : String} {bindings : Bindings} {value : String → String}
    (bound : ∀ position name, PlaceholderAt template position name →
      bindings.find? name = some (value name)) :
    render template bindings = .ok ((Split.ofSegments (segments template)).fill value) := by
  have bound (name : String) (listed : name ∈ (segments template).filterMap Segment.name?) :
      bindings.find? name = some (value name) := by
    obtain ⟨position, there⟩ := mem_filterMap_name?.mp listed
    exact bound position name there
  have none : ((segments template).filterMap Segment.name?).find? (lacks bindings) = none :=
    List.find?_eq_none.mpr fun name listed => by simp [lacks, bound name listed]
  rw [render, foldlM_append_eq, none, Split.fill_eq_join, Split.segments_ofSegments]
  refine congrArg Except.ok (join_fill_congr fun name listed => ?_)
  rw [valueOf, bound name listed, Option.getD_some]

/-- Placeholders never overlap, so that a template is taken apart around all of them
in exactly one way. Where all names are bound, rendering puts their values in their
place, whatever the values hold, and leaves the texts between them as they are.
Names that are bound to their own placeholders give back the template, and so does
a template without placeholders. -/
theorem render_is_substitution (template : String) :
    (∀ i j first second, PlaceholderAt template i first → PlaceholderAt template j second →
      i ≤ j → (i = j ∧ first = second) ∨ i + (hole first).length ≤ j) ∧
    (∃ split : Split, split.Around template ∧
      (∀ other : Split, other.Around template → other = split) ∧
      ∀ (bindings : Bindings) (value : String → String),
        (∀ name ∈ split.names, bindings.find? name = some (value name)) →
        render template bindings = .ok (split.fill value)) ∧
    (∀ bindings : Bindings,
      (∀ position name, PlaceholderAt template position name →
        bindings.find? name = some (hole name)) →
      render template bindings = .ok template) ∧
    ((∀ position name, ¬ PlaceholderAt template position name) →
      ∀ bindings, render template bindings = .ok template) := by
  have around := around_ofSegments template
  refine ⟨fun i j first second h₁ h₂ => h₁.disjoint h₂,
    ⟨_, around, fun other h => h.unique around, fun bindings value bound => ?_⟩,
    fun bindings bound => ?_, fun none bindings => ?_⟩
  · exact render_eq_fill fun position name there => bound name (around.mem_names there)
  · rw [render_eq_fill bound, around.text]
  · have bound (position : Nat) (name : String) (there : PlaceholderAt template position name) :
        bindings.find? name = some (hole name) := absurd there (none position name)
    rw [render_eq_fill bound, around.text]

theorem render_is_substitution_of_nested_openings :
    render "$\x7b1bad\x7d $\x7ba$\x7bb\x7d$\x7bé\x7d$$\x7bb\x7d\x7d" ⟨[("b", "$\x7ba\x7d")]⟩ =
        .ok "$\x7b1bad\x7d $\x7ba$\x7ba\x7d$\x7bé\x7d$$\x7ba\x7d\x7d" ∧
      render "$\x7b1bad\x7d $\x7ba$\x7bb\x7d$\x7bé\x7d$$\x7bb\x7d\x7d" ⟨[("b", "$\x7bb\x7d")]⟩ =
        .ok "$\x7b1bad\x7d $\x7ba$\x7bb\x7d$\x7bé\x7d$$\x7bb\x7d\x7d" ∧
      render "$\x7b1bad\x7d" ⟨[]⟩ = .ok "$\x7b1bad\x7d" := by
  obtain ⟨-, ⟨split, -, unique, fills⟩, identity, -⟩ := render_is_substitution
    "$\x7b1bad\x7d $\x7ba$\x7bb\x7d$\x7bé\x7d$$\x7bb\x7d\x7d"
  refine ⟨?_, identity _ fun position name there => ?_,
    (render_is_substitution "$\x7b1bad\x7d").2.2.2 (fun position name there => ?_) _⟩
  · have around : Split.Around
        ⟨[("$\x7b1bad\x7d $\x7ba", "b"), ("$\x7bé\x7d$", "b")], "\x7d"⟩
        "$\x7b1bad\x7d $\x7ba$\x7bb\x7d$\x7bé\x7d$$\x7bb\x7d\x7d" :=
      ⟨by decide, fun position name => by rw [← mem_marks_segments]; exact Iff.rfl⟩
    cases unique _ around
    exact fills _ (fun _ => "$\x7ba\x7d") (by decide)
  · have named : ∀ mark ∈ marks 0
        (segments "$\x7b1bad\x7d $\x7ba$\x7bb\x7d$\x7bé\x7d$$\x7bb\x7d\x7d"),
        mark.2 = "b" := by decide
    cases named _ (mem_marks_segments.mpr there)
    rfl
  · have none : marks 0 (segments "$\x7b1bad\x7d") = [] := by decide
    rw [← mem_marks_segments, none] at there
    cases there

end FactoryOverloads.Template
