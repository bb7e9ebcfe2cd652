import FactoryOverloads.Proofs.CommandLine.Requesting

/-!
# A wish for quiet among the arguments

A wish for quiet is understood behind the name of a generation or a check, wherever
an option can begin, and nowhere else (`spellArgument_generates`,
`spellArgument_before`). The other arguments spell what they spell without it, and
so, by induction on those in front of it, the request is the same but for the quiet
(`parse_of_insert`). Right behind the name it is always understood
(`exists_insert`).
-/

namespace FactoryOverloads.CommandLine

variable {environment : Environment} {options : List OptionName} {name : CommandName}
  {mode : Mode} {flag : String} {front back arguments : List String}
  {entry : OptionName × String} {option : OptionName} {first second given : Given}
  {before reading other : Reading} {command : Command} {invocation : Invocation}

/-- The argument is a wish for quiet. -/
def AsksForQuiet (argument : String) : Prop := argument = "-q" ∨ argument = "--quiet"

/-- The command, which is to be quiet if it can be. -/
def Command.quieted : Command → Command
  | .generate options isDryRun isVerbose _ => .generate options isDryRun isVerbose true
  | .check options _ => .check options true
  | command => command

/-- The request, which is to be quiet if it can be. -/
def Invocation.quieted (invocation : Invocation) : Invocation :=
  { invocation with command := invocation.command.quieted }

/-! ## Spelling -/

theorem spellArgument_generates (generates : name = .generate ∨ name = .check)
    (wish : AsksForQuiet flag) (mode : Mode) :
    spellArgument name.options mode flag =
      if mode = .start then some ([(.quiet, "")], .start) else none := by
  obtain ⟨pending, isTrailing⟩ := mode
  rcases generates with rfl | rfl <;> rcases wish with rfl | rfl <;>
    cases isTrailing <;> cases pending <;> rfl

theorem spellArgument_before (wish : AsksForQuiet flag) (mode : Mode) :
    spellArgument (levelOptions none) mode flag = none := by
  obtain ⟨pending, isTrailing⟩ := mode
  rcases wish with rfl | rfl <;> cases isTrailing <;> cases pending <;> rfl

theorem spell_cons_eq_some_iff {argument : String} :
    spell options mode (argument :: arguments) = some given ↔
      ∃ spelled after, spellArgument options mode argument = some (spelled, after) ∧
        ∃ more, spell options after arguments = some more ∧ given = spelled ++ more := by
  rw [spell]
  simp only [Option.bind_eq_some_iff, Option.map_eq_some_iff, Prod.exists, eq_comm (b := given)]

/-- An argument that spells an option where one can begin, and nothing elsewhere, adds
that option. -/
theorem spell_of_insert
    (own : ∀ mode, spellArgument options mode flag =
      if mode = .start then some ([entry], .start) else none)
    (h : spell options mode (front ++ flag :: back) = some given) :
    ∃ first second, given = first ++ entry :: second ∧
      spell options mode (front ++ back) = some (first ++ second) := by
  induction front generalizing mode given with
  | nil =>
    obtain ⟨spelled, after, spells, more, rest, rfl⟩ := spell_cons_eq_some_iff.mp h
    rw [own] at spells
    split at spells
    · next begins =>
      cases spells
      exact ⟨[], more, rfl, begins ▸ rest⟩
    · cases spells
  | cons argument front ih =>
    obtain ⟨spelled, after, spells, more, rest, rfl⟩ := spell_cons_eq_some_iff.mp h
    obtain ⟨first, second, rfl, without⟩ := ih rest
    refine ⟨spelled ++ first, second, by simp, spell_cons_eq_some_iff.mpr ?_⟩
    exact ⟨spelled, after, spells, _, without, by simp⟩

/-! ## Meaning -/

theorem lookup_insert_of_ne (differs : option ≠ entry.1) :
    (first ++ entry :: second).lookup option = (first ++ second).lookup option := by
  obtain ⟨own, text⟩ := entry
  have unlike : (option == own) = false := beq_eq_false_iff_ne.mpr differs
  rw [List.lookup_append, List.lookup_append, List.lookup_cons, unlike]

theorem lookup_isSome_eq_false_iff :
    (given.lookup option).isSome = false ↔ option ∉ given.map Prod.fst := by
  rw [Option.isSome_eq_false_iff, Option.isNone_iff_eq_none, List.lookup_eq_none_iff]
  constructor
  · intro differ member
    obtain ⟨entry, listed, same⟩ := List.mem_map.mp member
    exact bne_iff_ne.mp (differ entry listed) same.symm
  · intro absent entry listed
    exact bne_iff_ne.mpr fun same => absent (List.mem_map.mpr ⟨entry, listed, same.symm⟩)

/-- The options that are given with a wish for quiet, and those without it. -/
structure Quiets (given without : Given) : Prop where
  same : ∀ option ≠ .quiet, given.lookup option = without.lookup option
  quiet : (given.lookup .quiet).isSome = true
  loud : (without.lookup .quiet).isSome = false

theorem quiets_insert (fresh : OptionName.quiet ∉ (first ++ second).map Prod.fst) :
    Quiets (first ++ (.quiet, "") :: second) (first ++ second) where
  same option differs := lookup_insert_of_ne differs
  quiet := by
    rw [List.lookup_append, List.lookup_cons]
    cases first.lookup .quiet <;> rfl
  loud := lookup_isSome_eq_false_iff.mpr fresh

namespace Quiets

variable {without : Given} (quiets : Quiets given without)

include quiets

theorem generatorOptions_eq :
    generatorOptions environment ⟨given, none⟩ = generatorOptions environment ⟨without, none⟩ := by
  unfold generatorOptions effectiveValue Reading.value?
  simp only [quiets.same _ (show OptionName.config ≠ .quiet by decide),
    quiets.same _ (show OptionName.output ≠ .quiet by decide),
    quiets.same _ (show OptionName.maxArity ≠ .quiet by decide),
    quiets.same _ (show OptionName.minArity ≠ .quiet by decide),
    quiets.same _ (show OptionName.target ≠ .quiet by decide)]

theorem has_eq (differs : option ≠ .quiet) :
    Reading.has ⟨given, none⟩ option = Reading.has ⟨without, none⟩ option := by
  rw [Reading.has, Reading.value?, quiets.same option differs, Reading.has, Reading.value?]

theorem shared_eq (differs : option ≠ .quiet) (fallback : String) :
    shared before ⟨given, none⟩ option fallback =
      shared before ⟨without, none⟩ option fallback := by
  unfold shared Reading.value?
  rw [quiets.same option differs]

/-- With a wish for quiet, a command is the same as without, but quiet. -/
theorem commandOf_eq_ok_iff (generates : name = .generate ∨ name = .check) :
    commandOf environment ⟨given, none⟩ name = .ok command ↔
      ∃ loud, commandOf environment ⟨without, none⟩ name = .ok loud ∧
        loud.isQuiet = false ∧ command = loud.quieted := by
  have quiet : Reading.has ⟨given, none⟩ .quiet = true := quiets.quiet
  have loud : Reading.has ⟨without, none⟩ .quiet = false := quiets.loud
  rcases generates with rfl | rfl
  · simp only [commandOf_generate_eq_ok_iff, quiets.generatorOptions_eq, quiet, loud,
      quiets.has_eq (show OptionName.dryRun ≠ .quiet by decide),
      quiets.has_eq (show OptionName.verbose ≠ .quiet by decide)]
    constructor
    · rintro ⟨selected, reads, rfl⟩
      exact ⟨_, ⟨selected, reads, rfl⟩, rfl, rfl⟩
    · rintro ⟨_, ⟨selected, reads, rfl⟩, -, rfl⟩
      exact ⟨selected, reads, rfl⟩
  · simp only [commandOf_check_eq_ok_iff, quiets.generatorOptions_eq, quiet, loud]
    constructor
    · rintro ⟨selected, reads, rfl⟩
      exact ⟨_, ⟨selected, reads, rfl⟩, rfl, rfl⟩
    · rintro ⟨_, ⟨selected, reads, rfl⟩, -, rfl⟩
      exact ⟨selected, reads, rfl⟩

/-- With a wish for quiet, a request means the same as without, but is quiet. -/
theorem means_iff (generates : name = .generate ∨ name = .check) :
    Means environment before name given invocation ↔
      ∃ loud, Means environment before name without loud ∧ loud.command.isQuiet = false ∧
        invocation = loud.quieted := by
  have color : shared before ⟨given, none⟩ .color "auto" =
      shared before ⟨without, none⟩ .color "auto" := quiets.shared_eq (by decide) "auto"
  have logLevel : shared before ⟨given, none⟩ .logLevel "info" =
      shared before ⟨without, none⟩ .logLevel "info" := quiets.shared_eq (by decide) "info"
  constructor
  · rintro ⟨meant, hasColor, hasLevel⟩
    obtain ⟨loud, means, isLoud, same⟩ := (quiets.commandOf_eq_ok_iff generates).mp meant
    refine ⟨⟨loud, invocation.color, invocation.logLevel⟩,
      ⟨means, hasColor.trans color, hasLevel.trans logLevel⟩, isLoud, ?_⟩
    rw [Invocation.quieted, ← same]
  · rintro ⟨loud, ⟨means, hasColor, hasLevel⟩, isLoud, rfl⟩
    exact ⟨(quiets.commandOf_eq_ok_iff generates).mpr ⟨loud.command, means, isLoud, rfl⟩,
      hasColor.trans color.symm, hasLevel.trans logLevel.symm⟩

end Quiets

/-! ## Command lines -/

/-- A wish for quiet that is accepted stands behind the name of the command. -/
theorem exists_front {rest : List String} (wish : AsksForQuiet flag)
    (h : scan none .empty none false (front ++ flag :: back) = .ok (before, some (name, rest))) :
    ∃ behind, rest = behind ++ flag :: back ∧
      scan none .empty none false (front ++ back) = .ok (before, some (name, behind ++ back)) := by
  have start : scan none .empty Mode.start.pending Mode.start.isTrailing (front ++ flag :: back) =
    .ok (before, some (name, rest)) := h
  obtain ⟨top, word, split, named, options, any⟩ := exists_command start
  have apart : word ≠ flag := by
    rintro rfl
    rcases wish with rfl | rfl <;> cases named
  have absent : flag ∉ top := fun member =>
    let ⟨mode, spelled⟩ := options flag member
    spelled (spellArgument_before wish mode)
  rcases List.append_eq_append_iff.mp split with ⟨gap, rfl, same⟩ | ⟨gap, rfl, same⟩
  · cases gap with
    | nil => exact absurd (List.cons.inj same).1.symm apart
    | cons argument gap =>
      cases (List.cons.inj same).1
      simp at absent
  · cases gap with
    | nil => exact absurd (List.cons.inj same).1 apart
    | cons argument behind =>
      obtain ⟨rfl, rfl⟩ := List.cons.inj same
      refine ⟨behind, rfl, ?_⟩
      rw [List.append_assoc]
      exact any (behind ++ back)

/-- Where a wish for quiet is accepted, the request is the same without it, but is not
quiet. -/
theorem parse_of_insert (wish : AsksForQuiet flag)
    (parsed : parse environment (front ++ flag :: back) = .ok invocation)
    (selects : invocation.command.selection?.isSome = true) :
    ∃ loud, parse environment (front ++ back) = .ok loud ∧
      loud.command.selection?.isSome = true ∧ loud.command.isQuiet = false ∧
      invocation = loud.quieted := by
  obtain ⟨before, name, given, generates, ⟨rest, scanned, spells⟩, means⟩ :=
    parse_eq_ok_iff_asks.mp ⟨parsed, selects⟩
  obtain ⟨behind, rfl, without⟩ := exists_front wish scanned
  obtain ⟨first, second, rfl, spelled⟩ :=
    spell_of_insert (spellArgument_generates generates wish) spells.spelled
  have differ := spells.differ
  rw [List.map_append, List.map_cons, List.nodup_middle, ← List.map_append,
    List.nodup_cons] at differ
  obtain ⟨fresh, differ⟩ := differ
  obtain ⟨loud, meansLoud, isLoud, same⟩ := ((quiets_insert fresh).means_iff generates).mp means
  have accepted : ∀ entry ∈ first ++ second, entry.1.accepts entry.2 = true := fun entry member =>
    spells.accepted entry (by grind)
  obtain ⟨parsedLoud, selectsLoud⟩ := parse_eq_ok_iff_asks.mpr
    ⟨before, name, _, generates, ⟨_, without, spelled, differ, accepted⟩, meansLoud⟩
  exact ⟨loud, parsedLoud, selectsLoud, isLoud, same⟩

/-- What is given without a wish for quiet does not hold one. -/
theorem notMem_of_isQuiet_eq_false (generates : name = .generate ∨ name = .check)
    (meant : commandOf environment ⟨given, none⟩ name = .ok command)
    (loud : command.isQuiet = false) : OptionName.quiet ∉ given.map Prod.fst := by
  have has : Reading.has ⟨given, none⟩ .quiet = false := by
    rcases generates with rfl | rfl
    · obtain ⟨selected, -, rfl⟩ := commandOf_generate_eq_ok_iff.mp meant
      exact loud
    · obtain ⟨selected, -, rfl⟩ := commandOf_check_eq_ok_iff.mp meant
      exact loud
  exact lookup_isSome_eq_false_iff.mp has

/-- A wish for quiet can be added to every request for a generation or a check. -/
theorem exists_insert (parsed : parse environment arguments = .ok invocation)
    (selects : invocation.command.selection?.isSome = true)
    (loud : invocation.command.isQuiet = false) :
    ∃ front back, arguments = front ++ back ∧ ∀ flag, AsksForQuiet flag →
      parse environment (front ++ flag :: back) = .ok invocation.quieted := by
  obtain ⟨before, name, given, generates, ⟨rest, scanned, spells⟩, means⟩ :=
    parse_eq_ok_iff_asks.mp ⟨parsed, selects⟩
  have start : scan none .empty Mode.start.pending Mode.start.isTrailing arguments =
    .ok (before, some (name, rest)) := scanned
  obtain ⟨top, word, rfl, -, -, any⟩ := exists_command start
  refine ⟨top ++ [word], rest, by simp, fun flag wish => ?_⟩
  have fresh := notMem_of_isQuiet_eq_false generates means.command loud
  have quiets : Quiets ([] ++ (.quiet, "") :: given) ([] ++ given) := quiets_insert fresh
  have spelled : spell name.options .start (flag :: rest) = some ((.quiet, "") :: given) := by
    refine spell_cons_eq_some_iff.mpr ⟨[(.quiet, "")], .start, ?_, given, spells.spelled, rfl⟩
    rw [spellArgument_generates generates wish, if_pos rfl]
  have asks : Asks (top ++ [word] ++ flag :: rest) before name ((.quiet, "") :: given) := by
    refine ⟨flag :: rest, ?_, spelled, List.nodup_cons.mpr ⟨fresh, spells.differ⟩,
      List.forall_mem_cons.mpr ⟨rfl, spells.accepted⟩⟩
    rw [List.append_assoc]
    exact any (flag :: rest)
  have meant := (quiets.means_iff generates).mpr ⟨invocation, means, loud, rfl⟩
  exact (parse_eq_ok_iff_asks.mpr ⟨before, name, _, generates, asks, meant⟩).1

end FactoryOverloads.CommandLine
