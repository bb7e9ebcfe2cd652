import Mathlib.Data.List.Basic
import FactoryOverloads.Proofs.Path.Directory

/-!
# Components of a directory

Many texts spell one path, so that paths are compared by their components. They
are read off the segments: what the first one says of the beginning
(`Path.origin`), and one component for each segment that names something
(`Path.components_eq`).

* Behind a directory, a relative path adds its own segments
  (`Path.components_join`).
* The directory of a path that ends in a name has all components but the last one,
  whatever empty segments and points stand between or behind them
  (`Path.components_directory`). Where nothing is left, for a bare name, the
  directory is the present one.

So joining the directory and the name gives the path back, and of what was joined
the directory is what the name was joined to.
-/

namespace FactoryOverloads.Path

variable {path name base : String} {before idle : List String}

/-- A text that can be the name of an entry. -/
structure IsName (name : String) : Prop where
  filled : name ≠ ""
  notHere : name ≠ "."
  notAbove : name ≠ ".."
  whole : '/' ∉ name.toList

/-! ## Components and segments -/

/-- What the beginning of a path says. -/
def origin (path : String) : List Component :=
  if isAbsolute path then [.root]
  else if (segments path).head? = some "." then [.here]
  else []

theorem components_eq (path : String) :
    components path = origin path ++ (segments path).filterMap Component.ofSegment? := by
  unfold components origin
  split
  · rfl
  · split <;> rfl

theorem ofSegment?_eq_none_iff {segment : String} :
    Component.ofSegment? segment = none ↔ segment = "" ∨ segment = "." := by
  unfold Component.ofSegment?
  by_cases idle : segment = "" ∨ segment = "."
  · simp [idle]
  · by_cases above : segment = ".." <;> simp [idle, above]

theorem ofSegment?_eq_name_iff {segment : String} :
    Component.ofSegment? segment = some (.name name) ↔
      segment = name ∧ name ≠ "" ∧ name ≠ "." ∧ name ≠ ".." := by
  unfold Component.ofSegment?
  split_ifs with idle above
  · refine iff_of_false nofun ?_
    rintro ⟨rfl, filled, notHere, -⟩
    simp [filled, notHere] at idle
  · refine iff_of_false (by simp) ?_
    rintro ⟨rfl, -, -, notAbove⟩
    exact notAbove above
  · simp only [Option.some.injEq, Component.name.injEq, Bool.or_eq_true, decide_eq_true_eq,
      not_or] at idle ⊢
    constructor
    · rintro rfl
      exact ⟨rfl, idle.1, idle.2, above⟩
    · exact And.left

theorem IsName.ofSegment? (h : IsName name) :
    Component.ofSegment? name = some (.name name) :=
  ofSegment?_eq_name_iff.mpr ⟨rfl, h.filled, h.notHere, h.notAbove⟩

theorem filterMap_ofSegment?_of_idle (nothing : ∀ segment ∈ idle, segment = "" ∨ segment = ".") :
    idle.filterMap Component.ofSegment? = [] :=
  List.filterMap_eq_nil_iff.mpr fun segment mem => ofSegment?_eq_none_iff.mpr (nothing segment mem)

theorem getLast?_origin_ne (path name : String) : (origin path).getLast? ≠ some (.name name) := by
  unfold origin
  split_ifs <;> simp

/-- A path whose last component is a name has the name as a segment, with nothing
behind it. -/
theorem exists_segments_of_name (h : (components path).getLast? = some (.name name)) :
    IsName name ∧ ∃ before idle, segments path = before ++ name :: idle ∧
      ∀ segment ∈ idle, segment = "" ∨ segment = "." := by
  rw [components_eq, List.getLast?_append] at h
  have last : ((segments path).filterMap Component.ofSegment?).getLast? = some (.name name) := by
    rcases Option.or_eq_some_iff.mp h with own | ⟨-, first⟩
    · exact own
    · exact absurd first (getLast?_origin_ne path name)
  obtain ⟨shown, steps⟩ := List.getLast?_eq_some_iff.mp last
  obtain ⟨before, behind, split, -, rest⟩ := List.filterMap_eq_append_iff.mp steps
  obtain ⟨skipped, segment, idle, rfl, -, named, nothing⟩ := List.filterMap_eq_cons_iff.mp rest
  obtain ⟨rfl, filled, notHere, notAbove⟩ := ofSegment?_eq_name_iff.mp named
  have mem : segment ∈ segments path := by simp [split]
  refine ⟨⟨filled, notHere, notAbove, slash_notMem_of_mem_segments path segment mem⟩,
    before ++ skipped, idle, by rw [split, List.append_assoc], fun other behind => ?_⟩
  exact ofSegment?_eq_none_iff.mp (List.filterMap_eq_nil_iff.mp nothing other behind)

/-- Only the empty path has no components. -/
theorem components_ne_nil (filled : path ≠ "") : components path ≠ [] := by
  rw [components_eq]
  intro none
  obtain ⟨start, steps⟩ := List.append_eq_nil_iff.mp none
  unfold origin at start
  split_ifs at start with absolute here
  obtain ⟨first, more, pieces, some⟩ := exists_first_segment filled (by simpa using absolute)
  rw [pieces, List.filterMap_eq_nil_iff] at steps
  rcases ofSegment?_eq_none_iff.mp (steps first List.mem_cons_self) with empty | point
  · exact some empty
  · exact here (by rw [pieces, point]; rfl)

/-! ## Directories -/

theorem directory_ne_empty (path : String) : directory path ≠ "" := by
  unfold directory
  split
  · next parent _ =>
    split
    · decide
    · next filled => simpa using filled
  · decide

/-- Where nothing names anything, the first segment is not a point: that one would
have been kept. -/
theorem head?_of_trimmed_eq_nil (h : trimmed before.reverse = []) : before.head? ≠ some "." := by
  rw [← List.getLast?_reverse]
  generalize before.reverse = segments at h
  induction segments with
  | nil => exact nofun
  | cons segment rest ih =>
    rw [trimmed] at h
    split at h
    · next idle =>
      cases rest with
      | nil =>
        have empty : segment = "" := by simpa using idle
        simp [empty]
      | cons next rest =>
        rw [List.getLast?_cons_cons]
        exact ih h
    · cases h

/-- Behind the same first segment, paths that are both absolute or both relative
begin alike. -/
theorem origin_congr {other : String} (absolute : isAbsolute path = isAbsolute other)
    (first : (segments path).head? = (segments other).head?) : origin path = origin other := by
  rw [origin, origin, absolute, first]

/-- A path that ends in a name has the components of its directory before it. -/
theorem components_directory (h : (components path).getLast? = some (.name name)) :
    components (directory path) =
      if (components path).dropLast = [] then [.here] else (components path).dropLast := by
  obtain ⟨named, before, idle, split, nothing⟩ := exists_segments_of_name h
  have plain : name ≠ "" ∧ name ≠ "." := ⟨named.filled, named.notHere⟩
  have shown : (components path).dropLast =
      origin path ++ before.filterMap Component.ofSegment? := by
    rw [components_eq, split, List.filterMap_append, List.filterMap_cons_some named.ofSegment?,
      filterMap_ofSegment?_of_idle nothing, ← List.append_assoc, List.dropLast_concat]
  obtain ⟨dropped, cut, skipped⟩ := exists_trimmed before.reverse
  have skipped : dropped.reverse.filterMap Component.ofSegment? = [] :=
    filterMap_ofSegment?_of_idle fun segment mem => skipped segment (List.mem_reverse.mp mem)
  have shape : before = (trimmed before.reverse).reverse ++ dropped.reverse := by
    rw [← List.reverse_append, ← cut, List.reverse_reverse]
  rw [shown]
  by_cases bare : trimmed before.reverse = []
  · have parent := parent?_of_name split nothing plain
    rw [bare] at parent
    have none : before.filterMap Component.ofSegment? = [] := by
      rw [shape, bare, List.reverse_nil, List.nil_append, skipped]
    rw [none, List.append_nil]
    cases absolute : isAbsolute path with
    | true =>
      have root : directory path = "/" := by rw [directory, parent, absolute]; rfl
      rw [root, origin, absolute]
      rfl
    | false =>
      have present : directory path = "." := by rw [directory, parent, absolute]; rfl
      have first : (segments path).head? ≠ some "." := by
        rw [split]
        cases before with
        | nil => simpa using named.notHere
        | cons segment more =>
          show (segment :: more).head? ≠ some "."
          exact head?_of_trimmed_eq_nil bare
      rw [present, origin, absolute, if_neg Bool.false_ne_true, if_neg first]
      rfl
  · obtain ⟨pieces, absolute⟩ := segments_directory split nothing plain bare
    have some : (trimmed before.reverse).reverse ≠ [] := by simpa using bare
    generalize (trimmed before.reverse).reverse = kept at pieces shape some
    have begins : (segments (directory path)).head? = (segments path).head? := by
      rw [pieces, split, shape, List.append_assoc, List.head?_append_of_ne_nil _ some]
    have same : components (directory path) =
        origin path ++ before.filterMap Component.ofSegment? := by
      rw [components_eq, origin_congr absolute begins, pieces, shape, List.filterMap_append,
        skipped, List.append_nil]
    rw [same, if_neg]
    rw [← same]
    exact components_ne_nil (directory_ne_empty path)

/-! ## Joined paths -/

theorem segments_append_slash (first second : String) :
    segments (first ++ "/" ++ second) = segments first ++ segments second := by
  have slash : "/".toList = ['/'] := rfl
  rw [segments, Text.split, String.toList_append, String.toList_append, slash, List.append_assoc,
    List.singleton_append, Text.splitFrom_append]
  rfl

/-- The segments of a joined path. A slash at the end of the directory is the one
that joins. -/
theorem segments_join (filled : base ≠ "") (relative : isAbsolute path = false) :
    ∃ before, before ≠ [] ∧ segments (join base path) = before ++ segments path ∧
      (segments base = before ∨ segments base = before ++ [""]) := by
  have some (text : String) : segments text ≠ [] := by
    obtain ⟨more, pieces, split⟩ := Text.exists_splitFrom_eq '/' [] text.toList
    rw [segments, Text.split, split]
    exact List.cons_ne_nil _ _
  have notEmpty : base.isEmpty = false := by simpa using filled
  rw [join, relative, if_neg Bool.false_ne_true, notEmpty, Bool.false_or]
  split
  · next slash =>
    obtain ⟨characters, last⟩ := List.getLast?_eq_some_iff.mp (eq_of_beq slash)
    have spelling : base = String.ofList characters ++ "/" ++ "" :=
      String.toList_injective (by simp [last])
    refine ⟨segments (String.ofList characters), some _, ?_, .inr ?_⟩
    · rw [spelling, String.append_empty, segments_append_slash]
    · rw [spelling, segments_append_slash]
      rfl
  · exact ⟨segments base, some base, segments_append_slash base path, .inl rfl⟩

theorem isAbsolute_join (filled : base ≠ "") (relative : isAbsolute path = false) :
    isAbsolute (join base path) = isAbsolute base := by
  have notEmpty : base.isEmpty = false := by simpa using filled
  have first (rest : String) : isAbsolute (base ++ rest) = isAbsolute base := by
    have some : base.toList ≠ [] := by simpa using filled
    rw [isAbsolute, isAbsolute, String.toList_append, List.head?_append_of_ne_nil _ some]
  rw [join, relative, if_neg Bool.false_ne_true]
  split
  · exact first path
  · rw [String.append_assoc]
    exact first _

/-- What is joined to a directory adds its own segments. -/
theorem components_join (filled : base ≠ "") (relative : isAbsolute path = false) :
    components (join base path) =
      components base ++ (segments path).filterMap Component.ofSegment? := by
  obtain ⟨before, some, joined, own⟩ := segments_join filled relative
  have begins : (segments (join base path)).head? = (segments base).head? := by
    rw [joined, List.head?_append_of_ne_nil _ some]
    rcases own with same | slash
    · rw [same]
    · rw [slash, List.head?_append_of_ne_nil _ some]
  have shown : (segments base).filterMap Component.ofSegment? =
      before.filterMap Component.ofSegment? := by
    rcases own with same | slash
    · rw [same]
    · have empty : [""].filterMap Component.ofSegment? = [] := rfl
      rw [slash, List.filterMap_append, empty, List.append_nil]
  rw [components_eq, origin_congr (isAbsolute_join filled relative) begins, joined,
    List.filterMap_append, ← shown, ← List.append_assoc, ← components_eq]

namespace IsName

theorem isAbsolute (h : IsName name) : isAbsolute name = false := by
  rw [Bool.eq_false_iff, ne_eq, Path.isAbsolute, beq_iff_eq]
  exact fun slash => h.whole (List.mem_of_head? slash)

theorem segments (h : IsName name) : segments name = [name] := by
  rw [Path.segments, Text.split, Text.splitFrom_of_notMem h.whole]
  simp

/-- A name becomes the last component. -/
theorem components_join (h : IsName name) (filled : base ≠ "") :
    components (join base name) = components base ++ [.name name] := by
  rw [Path.components_join filled h.isAbsolute, h.segments,
    List.filterMap_cons_some h.ofSegment?, List.filterMap_nil]

/-- The directory of a joined path is what was joined. -/
theorem components_directory_join (h : IsName name) (filled : base ≠ "") :
    components (directory (join base name)) = components base := by
  have joined := h.components_join filled
  rw [components_directory (by rw [joined, List.getLast?_concat]), joined,
    List.dropLast_concat, if_neg (components_ne_nil filled)]

end IsName

/-- Joining its directory and its name gives a path back, and puts a bare name
behind a point. -/
theorem components_join_directory (h : (components path).getLast? = some (.name name)) :
    components (join (directory path) name) =
      if components path = [.name name] then [.here, .name name] else components path := by
  have named := (exists_segments_of_name h).1
  obtain ⟨init, shape⟩ := List.getLast?_eq_some_iff.mp h
  rw [named.components_join (directory_ne_empty path), components_directory h, shape,
    List.dropLast_concat]
  by_cases bare : init = []
  · simp [bare]
  · rw [if_neg bare, if_neg]
    simpa using bare

theorem directory_of_parent?_eq_none (h : parent? path = none) : directory path = "." := by
  rw [directory, h]

end FactoryOverloads.Path
