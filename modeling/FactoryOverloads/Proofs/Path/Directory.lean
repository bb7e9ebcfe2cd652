import FactoryOverloads.FileTree
import FactoryOverloads.Proofs.Text.Splitting

/-!
# The directory of a path

A path is its segments with slashes between them (`Path.intercalate_segments`,
`Path.segments_intercalate`). The directory of a path that ends in a name has the
same segments up to the name, but for empty ones and points at their end
(`Path.segments_directory`), and these lead nowhere: a walk takes the same steps
to both (`FileTree.exists_steps_directory`).
-/

namespace FactoryOverloads

/-! ## Segments -/

namespace Path

variable {path name : String} {pieces before idle : List String}

theorem intercalate_segments (path : String) : "/".intercalate (segments path) = path :=
  Text.intercalate_split rfl path

theorem slash_notMem_of_mem_segments (path : String) :
    ∀ segment ∈ segments path, '/' ∉ segment.toList :=
  Text.notMem_of_mem_splitFrom List.not_mem_nil

theorem segments_intercalate (filled : pieces ≠ []) (h : ∀ piece ∈ pieces, '/' ∉ piece.toList) :
    segments ("/".intercalate pieces) = pieces :=
  Text.split_intercalate rfl filled h

theorem isAbsolute_iff :
    isAbsolute path = true ↔ ∃ segment rest, segments path = "" :: segment :: rest := by
  unfold isAbsolute segments Text.split
  cases path.toList with
  | nil => simp [Text.splitFrom]
  | cons c text =>
    rw [Text.splitFrom]
    by_cases slash : c = '/'
    · obtain ⟨more, pieces, split⟩ := Text.exists_splitFrom_eq '/' [] text
      rw [if_pos slash, split]
      simp [slash]
    · obtain ⟨more, pieces, split⟩ := Text.exists_splitFrom_eq '/' [c] text
      rw [if_neg slash, split]
      simp [slash]

/-- A relative path begins with a segment that is not empty. -/
theorem exists_first_segment (filled : path ≠ "") (relative : isAbsolute path = false) :
    ∃ first more, segments path = first :: more ∧ first ≠ "" := by
  have whole := intercalate_segments path
  cases split : segments path with
  | nil =>
    rw [split] at whole
    exact absurd whole.symm filled
  | cons first more =>
    refine ⟨first, more, rfl, fun empty => ?_⟩
    cases more with
    | nil =>
      rw [split, empty] at whole
      exact filled whole.symm
    | cons second more =>
      have absolute := isAbsolute_iff.mpr ⟨second, more, by rw [split, empty]⟩
      rw [relative] at absolute
      cases absolute

/-- A path goes on behind the slash that ends its directory part. -/
theorem eq_append_of_segments (split : segments path = before ++ [name]) :
    before = [] ∧ path = name ∨ path = "/".intercalate before ++ "/" ++ name := by
  have whole := intercalate_segments path
  rw [split] at whole
  by_cases bare : before = []
  · rw [bare, List.nil_append, String.intercalate_singleton] at whole
    exact .inl ⟨bare, whole.symm⟩
  · rw [String.intercalate_append_of_ne_nil bare (List.cons_ne_nil name []),
      String.intercalate_singleton] at whole
    exact .inr whole.symm

/-- A path that ends in a slash has an empty last segment. -/
theorem endsInSlash_iff (split : segments path = before ++ [name]) (some : path ≠ "") :
    FileTree.endsInSlash path = true ↔ name = "" := by
  have clean : '/' ∉ name.toList := slash_notMem_of_mem_segments path name (by simp [split])
  rw [FileTree.endsInSlash, beq_iff_eq]
  by_cases empty : name = ""
  · rcases eq_append_of_segments split with ⟨-, bare⟩ | joined
    · exact absurd (bare.trans empty) some
    · simp [joined, empty]
  · have last : path.toList.getLast? = name.toList.getLast? := by
      have filled : name.toList ≠ [] := by simpa using empty
      rcases eq_append_of_segments split with ⟨-, bare⟩ | joined
      · rw [bare]
      · rw [joined, String.toList_append, List.getLast?_append,
          List.getLast?_eq_some_getLast filled, Option.some_or]
    rw [last]
    exact iff_of_false (fun slash => clean (List.mem_of_getLast? slash)) empty

/-! ## Directories -/

/-- What is left out at the end of segments names nothing. -/
theorem exists_trimmed (segments : List String) :
    ∃ dropped, segments = dropped ++ trimmed segments ∧
      ∀ segment ∈ dropped, segment = "" ∨ segment = "." := by
  induction segments with
  | nil => exact ⟨[], rfl, nofun⟩
  | cons segment before ih =>
    rw [trimmed]
    split
    · next idle =>
      obtain ⟨dropped, split, nothing⟩ := ih
      refine ⟨segment :: dropped, by rw [List.cons_append, ← split],
        List.forall_mem_cons.mpr ⟨?_, nothing⟩⟩
      simp only [Bool.or_eq_true, decide_eq_true_eq, Bool.and_eq_true] at idle
      exact idle.imp_right And.left
    · exact ⟨[], rfl, nofun⟩

theorem head?_trimmed (segments : List String) : (trimmed segments).head? ≠ some "" := by
  induction segments with
  | nil => exact nofun
  | cons segment before ih =>
    rw [trimmed]
    split
    · exact ih
    · next named =>
      intro empty
      simp only [List.head?_cons, Option.some.injEq] at empty
      simp [empty] at named

theorem trimmed_of_name (plain : name ≠ "" ∧ name ≠ ".") (before : List String) :
    trimmed (name :: before) = name :: before := by
  simp [trimmed, plain]

/-- Behind other segments, those that name nothing are left out. -/
theorem trimmed_append (nothing : ∀ segment ∈ idle, segment = "" ∨ segment = ".")
    (filled : before ≠ []) : trimmed (idle ++ before) = trimmed before := by
  induction idle with
  | nil => rfl
  | cons segment idle ih =>
    obtain ⟨head, tail⟩ := List.forall_mem_cons.mp nothing
    rw [List.cons_append, trimmed, if_pos, ih tail]
    rcases head with empty | point
    · simp [empty]
    · simp [point, filled]

/-- What stands behind the name that a path ends in does not matter. -/
theorem parent?_of_name (split : segments path = before ++ name :: idle)
    (nothing : ∀ segment ∈ idle, segment = "" ∨ segment = ".")
    (plain : name ≠ "" ∧ name ≠ ".") :
    parent? path = some (spelled (isAbsolute path) (trimmed before.reverse)) := by
  have behind : ∀ segment ∈ idle.reverse, segment = "" ∨ segment = "." := fun segment mem =>
    nothing segment (List.mem_reverse.mp mem)
  rw [parent?, split, List.reverse_append, List.reverse_cons, List.append_assoc,
    List.singleton_append, trimmed_append behind (List.cons_ne_nil _ _), trimmed_of_name plain]

/-- The segments before a name, without those at their end that name nothing,
spell the directory. -/
theorem segments_directory (split : segments path = before ++ name :: idle)
    (nothing : ∀ segment ∈ idle, segment = "" ∨ segment = ".")
    (plain : name ≠ "" ∧ name ≠ ".") (some : trimmed before.reverse ≠ []) :
    segments (directory path) = (trimmed before.reverse).reverse ∧
      isAbsolute (directory path) = isAbsolute path := by
  obtain ⟨dropped, cut, -⟩ := exists_trimmed before.reverse
  generalize kept_eq : (trimmed before.reverse).reverse = kept
  have filled : kept ≠ [] := by
    rw [← kept_eq]
    simpa using some
  have shape : before = kept ++ dropped.reverse := by
    rw [← kept_eq, ← List.reverse_append, ← cut, List.reverse_reverse]
  have last : kept.getLast? ≠ .some "" := by
    rw [← kept_eq, List.getLast?_reverse]
    exact head?_trimmed before.reverse
  have pieces : segments ("/".intercalate kept) = kept := by
    refine segments_intercalate filled fun piece mem => slash_notMem_of_mem_segments path piece ?_
    rw [split, shape]
    exact List.mem_append_left _ (List.mem_append_left _ mem)
  have visible : "/".intercalate kept ≠ "" := by
    intro empty
    rw [empty] at pieces
    exact last (pieces ▸ rfl)
  have spelling : directory path = "/".intercalate kept := by
    have text : (spelled (isAbsolute path) (trimmed before.reverse)) = "/".intercalate kept := by
      rw [spelled, kept_eq]
      simp [visible]
    rw [directory, parent?_of_name split nothing plain, text]
    simp [visible]
  rw [spelling]
  refine ⟨pieces, Bool.eq_iff_iff.mpr ?_⟩
  rw [isAbsolute_iff, isAbsolute_iff, pieces, split, shape]
  constructor
  · rintro ⟨segment, rest, own⟩
    exact ⟨segment, rest ++ dropped.reverse ++ name :: idle, by rw [own]; simp⟩
  · rintro ⟨segment, rest, own⟩
    rcases kept with _ | ⟨first, _ | ⟨second, more⟩⟩
    · exact absurd rfl filled
    · have root : first = "" := by simpa using congrArg List.head? own
      exact absurd (by rw [root]; rfl) last
    · simp only [List.cons_append, List.cons.injEq] at own
      exact ⟨second, more, by rw [own.1]⟩

end Path

namespace FileTree

variable {path name : String} {before idle : List String}

theorem steps_of_segments (split : Path.segments path = before ++ name :: idle)
    (blank : ∀ segment ∈ idle, segment = "") (filled : name ≠ "") :
    steps path = before.filter (fun name => !name.isEmpty) ++ [name] := by
  have none : idle.filter (fun name => !name.isEmpty) = [] :=
    List.filter_eq_nil_iff.mpr fun segment mem => by simp [blank segment mem]
  rw [steps, split, List.filter_append, List.filter_cons_of_pos (by simpa using filled), none]

/-- The directory of a path has the steps of the path up to its name, but for
points at the end of either. -/
theorem exists_steps_directory (split : Path.segments path = before ++ name :: idle)
    (blank : ∀ segment ∈ idle, segment = "") (plain : name ≠ "" ∧ name ≠ ".") :
    Path.isAbsolute (Path.directory path) = Path.isAbsolute path ∧
      ∃ names idle idle', steps (Path.directory path) = names ++ idle ∧
        (steps path).dropLast = names ++ idle' ∧ (∀ name ∈ idle, name = ".") ∧
          ∀ name ∈ idle', name = "." := by
  obtain ⟨dropped, cut, nothing⟩ := Path.exists_trimmed before.reverse
  have walked : (steps path).dropLast = before.filter fun name => !name.isEmpty := by
    rw [steps_of_segments split blank plain.1, List.dropLast_concat]
  have shape : before = (Path.trimmed before.reverse).reverse ++ dropped.reverse := by
    rw [← List.reverse_append, ← cut, List.reverse_reverse]
  have points : ∀ name ∈ dropped.reverse.filter (fun name => !name.isEmpty), name = "." := by
    intro name mem
    obtain ⟨listed, filled⟩ := List.mem_filter.mp mem
    refine (nothing name (List.mem_reverse.mp listed)).resolve_left fun empty => ?_
    simp [empty] at filled
  rw [shape, List.filter_append] at walked
  by_cases bare : Path.trimmed before.reverse = []
  · rw [bare, List.reverse_nil, List.filter_nil, List.nil_append] at walked
    have parent := Path.parent?_of_name split (fun segment mem => .inl (blank segment mem)) plain
    rw [bare] at parent
    cases absolute : Path.isAbsolute path with
    | true =>
      have root : Path.directory path = "/" := by
        rw [Path.directory, parent, absolute]
        rfl
      rw [root]
      exact ⟨rfl, [], [], _, rfl, walked, nofun, points⟩
    | false =>
      have present : Path.directory path = "." := by
        rw [Path.directory, parent, absolute]
        rfl
      rw [present]
      exact ⟨rfl, [], ["."], _, rfl, walked, by simp, points⟩
  · obtain ⟨spelled, absolute⟩ :=
      Path.segments_directory split (fun segment mem => .inl (blank segment mem)) plain bare
    refine ⟨absolute, _, [], _, ?_, walked, nofun, points⟩
    rw [steps, spelled, List.append_nil]

end FileTree

end FactoryOverloads
