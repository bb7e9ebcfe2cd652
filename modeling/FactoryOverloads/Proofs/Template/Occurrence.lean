import Mathlib.Data.List.Infix
import FactoryOverloads.Proofs.Template.Filling

/-!
# Where placeholders stand

A placeholder is a legal name in its braces behind a dollar sign. Where one stands
in a text (`PlaceholderAt`) is said of the text alone, without a word about how it
is read. Since a dollar sign stands in a placeholder at its beginning only, no two
placeholders overlap (`PlaceholderAt.disjoint`).

Reading from left to right finds them all. A text is empty, or begins with a
character that begins no placeholder, or begins with a placeholder
(`reading_induction`); so the places at which the segments of a text have their
placeholders (`marks`) are those at which the text has one (`mem_marks_segments`).
-/

namespace FactoryOverloads.Template

/-! ## Names -/

/-- The characters that a name can begin with. -/
def StartsName (c : Char) : Prop := ('A' ≤ c ∧ c ≤ 'Z') ∨ ('a' ≤ c ∧ c ≤ 'z') ∨ c = '_'

/-- A text that can stand in a placeholder: an ASCII letter or an underscore, and
then letters, underscores and digits. -/
def LegalName (name : String) : Prop :=
  ∃ c rest, name.toList = c :: rest ∧ StartsName c ∧
    ∀ d ∈ rest, StartsName d ∨ ('0' ≤ d ∧ d ≤ '9')

theorem isNameStart_iff {c : Char} : isNameStart c = true ↔ StartsName c := by
  have upper : c.isUpper = true ↔ 'A' ≤ c ∧ c ≤ 'Z' := decide_eq_true_iff
  have lower : c.isLower = true ↔ 'a' ≤ c ∧ c ≤ 'z' := by
    show (decide ('a' ≤ c) && decide (c ≤ 'z')) = true ↔ _
    rw [Bool.and_eq_true, decide_eq_true_iff, decide_eq_true_iff]
  show (c.isUpper || c.isLower || c == '_') = true ↔ _
  rw [Bool.or_eq_true, Bool.or_eq_true, upper, lower, beq_iff_eq, or_assoc, StartsName]

theorem isNameCharacter_iff {c : Char} :
    isNameCharacter c = true ↔ StartsName c ∨ ('0' ≤ c ∧ c ≤ '9') := by
  have digit : c.isDigit = true ↔ '0' ≤ c ∧ c ≤ '9' := by simp [Char.isDigit, Char.le_def]
  rw [← isNameStart_iff, ← digit]
  simp only [isNameCharacter, isNameStart, Char.isAlphanum, Bool.or_eq_true]
  exact or_right_comm

theorem isName_iff {name : String} : isName name.toList = true ↔ LegalName name := by
  unfold LegalName
  cases name.toList with
  | nil => simp [isName]
  | cons c rest =>
    simp only [isName, Bool.and_eq_true, List.all_eq_true, isNameStart_iff, isNameCharacter_iff]
    constructor
    · exact fun h => ⟨c, rest, rfl, h⟩
    · rintro ⟨_, _, ⟨⟩, h⟩
      exact h

/-! ## Beginnings -/

/-- The characters begin with the placeholder of a name. -/
def Begins (name : String) (characters : List Char) : Prop :=
  LegalName name ∧ (hole name).toList <+: characters

theorem toList_hole (name : String) :
    (hole name).toList = '$' :: '{' :: (name.toList ++ ['}']) := by
  simp [hole]

theorem placeholderName?_eq_some_iff {characters name : List Char} :
    placeholderName? characters = some name ↔ Begins (String.ofList name) characters := by
  constructor
  · intro h
    unfold placeholderName? at h
    split at h
    · next rest =>
      dsimp only at h
      split at h
      · next found =>
        cases h
        rw [Bool.and_eq_true, beq_iff_eq] at found
        refine ⟨isName_iff.mp (by rw [String.toList_ofList]; exact found.1), ?_⟩
        rw [toList_hole, String.toList_ofList, List.cons_prefix_cons, List.cons_prefix_cons]
        refine ⟨rfl, rfl, ?_⟩
        rw [List.prefix_iff_eq_take, List.length_append, List.length_singleton,
          List.take_add_one, found.2]
        congr 1
        exact List.prefix_iff_eq_take.mp (List.takeWhile_prefix _)
      · cases h
    · cases h
  · rintro ⟨legal, rest, rfl⟩
    have shape : (hole (String.ofList name)).toList ++ rest =
        '$' :: '{' :: (name ++ '}' :: rest) := by
      rw [toList_hole, String.toList_ofList]
      simp
    rw [shape]
    have checked := isName_iff.mpr legal
    rw [String.toList_ofList] at checked
    exact placeholderName?_hole checked rest

theorem placeholderName?_eq_none_iff {characters : List Char} :
    placeholderName? characters = none ↔ ∀ name, ¬ Begins name characters := by
  rw [Option.eq_none_iff_forall_ne_some]
  constructor
  · intro h name begins
    refine h name.toList (placeholderName?_eq_some_iff.mpr ?_)
    rwa [String.ofList_toList]
  · intro h name found
    exact h _ (placeholderName?_eq_some_iff.mp found)

/-- A text begins with one placeholder at most. -/
theorem Begins.unique {first second : String} {characters : List Char}
    (h₁ : Begins first characters) (h₂ : Begins second characters) : first = second := by
  rw [← String.ofList_toList (s := first), ← placeholderName?_eq_some_iff] at h₁
  rw [← String.ofList_toList (s := second), ← placeholderName?_eq_some_iff] at h₂
  rw [h₁] at h₂
  exact String.toList_inj.mp (Option.some.inj h₂)

theorem LegalName.dollar_notMem {name : String} (h : LegalName name) : '$' ∉ name.toList := by
  intro member
  have dollar := all_isNameCharacter (isName_iff.mpr h) _ member
  exact absurd dollar (by decide)

/-- No placeholder begins inside another one, whose name has no dollar sign. -/
theorem Begins.length_le {first second : String} {characters : List Char} {offset : Nat}
    (h₁ : Begins first characters) (h₂ : Begins second (characters.drop offset))
    (later : 0 < offset) : (hole first).length ≤ offset := by
  by_contra inside
  obtain ⟨legal, rest, rfl⟩ := h₁
  obtain ⟨-, after, found⟩ := h₂
  rw [Nat.not_le, ← String.length_toList] at inside
  have dollar : (hole first).toList[offset]? = some '$' := by
    have head := congrArg List.head? found
    rw [List.head?_drop, List.getElem?_append_left inside, toList_hole second] at head
    exact head.symm
  obtain ⟨index, rfl⟩ := Nat.exists_eq_succ_of_ne_zero later.ne'
  rw [toList_hole, List.getElem?_cons_succ] at dollar
  have member := List.mem_of_getElem? dollar
  simp [legal.dollar_notMem] at member

/-! ## Places -/

/-- The placeholder of a name stands at a place of a text. -/
def PlaceholderAt (template : String) (position : Nat) (name : String) : Prop :=
  LegalName name ∧
    ∃ before after, template = before ++ hole name ++ after ∧ before.length = position

theorem placeholderAt_iff {template name : String} {position : Nat} :
    PlaceholderAt template position name ↔ Begins name (template.toList.drop position) := by
  refine and_congr_right fun _ => ⟨?_, ?_⟩
  · rintro ⟨before, after, rfl, rfl⟩
    refine ⟨after.toList, ?_⟩
    rw [String.toList_append, String.toList_append, List.append_assoc, ← String.length_toList,
      List.drop_left]
  · rintro ⟨after, found⟩
    refine ⟨String.ofList (template.toList.take position), String.ofList after, ?_, ?_⟩
    · apply String.toList_inj.mp
      simp only [String.toList_append, String.toList_ofList, List.append_assoc, found,
        List.take_append_drop]
    · rw [String.length_ofList, List.length_take, Nat.min_eq_left]
      by_contra beyond
      rw [List.drop_of_length_le (by omega), toList_hole] at found
      cases found

/-- Two placeholders of a text are the same, or the one ends before the other
begins. -/
theorem PlaceholderAt.disjoint {template first second : String} {i j : Nat}
    (h₁ : PlaceholderAt template i first) (h₂ : PlaceholderAt template j second) (le : i ≤ j) :
    (i = j ∧ first = second) ∨ i + (hole first).length ≤ j := by
  rw [placeholderAt_iff] at h₁ h₂
  obtain ⟨offset, rfl⟩ := Nat.exists_eq_add_of_le le
  rw [← List.drop_drop] at h₂
  rcases Nat.eq_zero_or_pos offset with rfl | later
  · exact .inl ⟨rfl, h₁.unique h₂⟩
  · exact .inr (Nat.add_le_add_left (h₁.length_le h₂ later) i)

/-! ## Reading -/

/-- A text is empty, or begins with a character that begins no placeholder, or
begins with a placeholder. -/
theorem reading_induction {motive : List Char → Prop} (nil : motive [])
    (character : ∀ c rest, placeholderName? (c :: rest) = none → motive rest → motive (c :: rest))
    (placeholder : ∀ name rest, LegalName name → motive rest →
      motive ((hole name).toList ++ rest)) (characters : List Char) : motive characters := by
  induction length : characters.length using Nat.strong_induction_on generalizing characters with
  | _ n ih =>
    subst length
    cases characters with
    | nil => exact nil
    | cons c rest =>
      cases found : placeholderName? (c :: rest) with
      | none => exact character c rest found (ih _ (Nat.lt_succ_self _) rest rfl)
      | some name =>
        obtain ⟨legal, after, shape⟩ := placeholderName?_eq_some_iff.mp found
        rw [← shape] at ih ⊢
        refine placeholder _ after legal (ih _ ?_ after rfl)
        rw [List.length_append, toList_hole]
        simp

theorem segmentsAfter_placeholder {name : String} (h : LegalName name) (rest : List Char) :
    segmentsAfter 0 ((hole name).toList ++ rest) = .placeholder name :: segmentsAfter 0 rest :=
  segmentsAfter_hole_append (isName_iff.mpr h) rest

/-- The places of the placeholders among segments, the first of which stands at a
given place. -/
def marks : (start : Nat) → List Segment → List (Nat × String)
  | _, [] => []
  | start, .character _ :: segments => marks (start + 1) segments
  | start, .placeholder name :: segments =>
    (start, name) :: marks (start + (hole name).length) segments

theorem map_snd_marks (start : Nat) (segments : List Segment) :
    (marks start segments).map Prod.snd = segments.filterMap Segment.name? := by
  induction segments generalizing start with
  | nil => rfl
  | cons segment segments ih =>
    cases segment with
    | character c => exact ih (start + 1)
    | placeholder name => exact congrArg (name :: ·) (ih _)

theorem le_of_mem_marks {start : Nat} {segments : List Segment} {mark : Nat × String}
    (h : mark ∈ marks start segments) : start ≤ mark.1 := by
  induction segments generalizing start with
  | nil => cases h
  | cons segment segments ih =>
    cases segment with
    | character c => exact (Nat.le_succ start).trans (ih h)
    | placeholder name =>
      rcases List.mem_cons.mp h with rfl | h
      · exact Nat.le_refl start
      · exact (Nat.le_add_right start _).trans (ih h)

theorem length_hole_pos (name : String) : 0 < (hole name).length := by
  rw [← String.length_toList, toList_hole]
  exact Nat.succ_pos _

/-- Places are listed from left to right. -/
theorem pairwise_marks (start : Nat) (segments : List Segment) :
    (marks start segments).Pairwise fun first second => first.1 < second.1 := by
  induction segments generalizing start with
  | nil => exact .nil
  | cons segment segments ih =>
    cases segment with
    | character c => exact ih (start + 1)
    | placeholder name =>
      refine .cons (fun mark h => ?_) (ih _)
      exact Nat.lt_of_lt_of_le (Nat.lt_add_of_pos_right (length_hole_pos name)) (le_of_mem_marks h)

theorem mem_marks {start position : Nat} {name : String} (characters : List Char) :
    (position, name) ∈ marks start (segmentsAfter 0 characters) ↔
      ∃ offset, position = start + offset ∧ Begins name (characters.drop offset) := by
  induction characters using reading_induction generalizing start with
  | nil => simp [segmentsAfter, marks, Begins, toList_hole]
  | character c rest inert ih =>
    rw [segmentsAfter_character inert, marks, ih]
    constructor
    · rintro ⟨offset, rfl, begins⟩
      exact ⟨offset + 1, by omega, begins⟩
    · rintro ⟨_ | offset, rfl, begins⟩
      · exact absurd begins (placeholderName?_eq_none_iff.mp inert name)
      · exact ⟨offset, by omega, begins⟩
  | placeholder first rest legal ih =>
    have begins₁ : Begins first ((hole first).toList ++ rest) := ⟨legal, List.prefix_append _ _⟩
    rw [segmentsAfter_placeholder legal, marks, List.mem_cons, ih]
    constructor
    · rintro (same | ⟨offset, rfl, begins⟩)
      · cases same
        exact ⟨0, rfl, begins₁⟩
      · refine ⟨(hole first).length + offset, by omega, ?_⟩
        rwa [← String.length_toList, List.drop_length_add_append]
    · rintro ⟨_ | offset, rfl, begins⟩
      · rw [begins₁.unique begins]
        exact .inl rfl
      · obtain ⟨further, reached⟩ := Nat.exists_eq_add_of_le
          (begins₁.length_le begins (Nat.succ_pos offset))
        rw [reached, ← String.length_toList, List.drop_length_add_append] at begins
        exact .inr ⟨further, by omega, begins⟩

/-- Reading finds the placeholders of a text, each where it stands. -/
theorem mem_marks_segments {template name : String} {position : Nat} :
    (position, name) ∈ marks 0 (segments template) ↔ PlaceholderAt template position name := by
  rw [segments, mem_marks, placeholderAt_iff]
  simp

end FactoryOverloads.Template
