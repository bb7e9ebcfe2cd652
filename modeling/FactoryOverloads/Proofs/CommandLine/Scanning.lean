import Mathlib.Data.List.Nodup
import FactoryOverloads.CommandLine.Parse
import FactoryOverloads.Proofs.FileTree.Walking

/-!
# What arguments spell

Which options the arguments of a level spell can be told without a word about what
has been read before (`spell`). Reading a level gives these options one after the
other (`Reading.give`), and they can be given when no two of them are the same and
each accepts its value (`give_empty_iff`). So a level of a command without further
arguments is read exactly when its arguments spell such options
(`scan_empty_iff`); the proof steps through the arguments
(`scan_cons_eq_ok_iff`), and inside an argument through its letters
(`readShort_eq_ok_iff`).
-/

namespace FactoryOverloads.CommandLine

/-- Options with their values, in the order in which they are given. -/
abbrev Given : Type := List (OptionName × String)

/-! ## Spelling -/

/-- The options that a long option spells, and an option that still needs its
value. -/
def spellLong (options : List OptionName) (name : String) (value : Option String) :
    Option (Given × Option OptionName) :=
  (options.find? fun option => option.long == name).bind fun option =>
    match value with
    | some value => if option.takesValue then some ([(option, value)], none) else none
    | none =>
      if option.halt?.isSome then none
      else if option.takesValue then some ([], some option) else some ([(option, "")], none)

/-- The options that letters spell, and an option that still needs its value. -/
def spellShort (options : List OptionName) : List Char → Option (Given × Option OptionName)
  | [] => some ([], none)
  | letter :: rest =>
    (options.find? fun option => option.short? == some letter).bind fun option =>
      if option.halt?.isSome then none
      else if option.takesValue then
        match rest with
        | [] => some ([], some option)
        | '=' :: value => some ([(option, String.ofList value)], none)
        | value => some ([(option, String.ofList value)], none)
      else (spellShort options rest).map fun (given, pending) => ((option, "") :: given, pending)

/-- What the next argument has to be. -/
structure Mode where
  /-- An option that needs it as its value. -/
  pending : Option OptionName
  /-- Whether it stands behind two dashes. -/
  isTrailing : Bool
  deriving DecidableEq, Repr

/-- The mode in which a level begins. -/
def Mode.start : Mode := ⟨none, false⟩

/-- The options that an argument spells, and the mode it leaves. An argument that is
no option spells nothing. -/
def spellArgument (options : List OptionName) (mode : Mode) (argument : String) :
    Option (Given × Mode) :=
  if mode.isTrailing then none
  else
    match mode.pending, Dashed.ofArgument? argument with
    | some _, some _ => none
    | some option, none => some ([(option, argument)], .start)
    | none, some .separator => some ([], ⟨none, true⟩)
    | none, some (.long name value) =>
      (spellLong options name value).map fun (given, pending) => (given, ⟨pending, false⟩)
    | none, some (.short letters) =>
      (spellShort options letters).map fun (given, pending) => (given, ⟨pending, false⟩)
    | none, none => none

/-- The options that arguments spell. -/
def spell (options : List OptionName) : Mode → List String → Option Given
  | mode, [] => if mode.pending.isSome then none else some []
  | mode, argument :: rest =>
    (spellArgument options mode argument).bind fun (given, mode) =>
      (spell options mode rest).map (given ++ ·)

/-! ## Giving -/

variable {command : Option CommandName} {name : CommandName} {reading next final : Reading}
  {options : List OptionName} {pending : Option OptionName} {mode : Mode}
  {option : OptionName} {argument text : String} {value : Option String}
  {arguments rest : List String} {given : Given}

namespace Reading

/-- The reading with options given one after the other. -/
def give (reading : Reading) (given : Given) : Except Halt Reading :=
  given.foldlM (fun reading entry => reading.add entry.1 entry.2) reading

theorem add_eq_ok_iff :
    reading.add option text = .ok next ↔ reading.has option = false ∧
      option.accepts text = true ∧
      next = { reading with options := reading.options ++ [(option, text)] } := by
  rw [Reading.add, refuse_eq_ok_iff, Bool.not_eq_true, Bool.or_eq_false_iff,
    Bool.not_eq_false', and_assoc, Except.ok.injEq, eq_comm (a := next)]

theorem give_nil : reading.give [] = .ok reading := rfl

theorem give_cons :
    reading.give ((option, text) :: given) = .ok final ↔
      ∃ next, reading.add option text = .ok next ∧ next.give given = .ok final := by
  rw [give, List.foldlM_cons, bind_eq_ok_iff]
  rfl

theorem give_append {more : Given} :
    reading.give (given ++ more) = .ok final ↔
      ∃ next, reading.give given = .ok next ∧ next.give more = .ok final := by
  rw [give, List.foldlM_append, bind_eq_ok_iff]
  rfl

theorem give_singleton : reading.give [(option, text)] = reading.add option text := by
  simp [give]

theorem has_append {other : OptionName} {argument : Option String} :
    has ⟨reading.options ++ [(option, text)], argument⟩ other = false ↔
      reading.has other = false ∧ other ≠ option := by
  simp only [has, value?, List.lookup_append, Option.isSome_or, Bool.or_eq_false_iff]
  refine and_congr_right fun _ => ?_
  rw [List.lookup_cons]
  cases same : other == option <;> simp_all

/-- Options can be given when none of them has been given before, they differ from
one another, and each accepts its value. -/
theorem give_eq_ok_iff :
    reading.give given = .ok final ↔
      (∀ entry ∈ given, reading.has entry.1 = false) ∧ (given.map Prod.fst).Nodup ∧
      (∀ entry ∈ given, entry.1.accepts entry.2 = true) ∧
      final = { reading with options := reading.options ++ given } := by
  induction given generalizing reading with
  | nil =>
    rw [give_nil]
    simp [eq_comm (a := final)]
  | cons entry given ih =>
    obtain ⟨option, text⟩ := entry
    simp only [give_cons, add_eq_ok_iff, ih, List.forall_mem_cons, List.map_cons, List.nodup_cons]
    constructor
    · rintro ⟨_, ⟨free, accepted, rfl⟩, apart, differ, accepts, rfl⟩
      simp only [has_append] at apart
      refine ⟨⟨free, fun entry member => (apart entry member).1⟩, ⟨fun member => ?_, differ⟩,
        ⟨accepted, accepts⟩, by simp⟩
      obtain ⟨entry, member, same⟩ := List.mem_map.mp member
      exact (apart entry member).2 same
    · rintro ⟨⟨free, apart⟩, ⟨fresh, differ⟩, ⟨accepted, accepts⟩, rfl⟩
      refine ⟨_, ⟨free, accepted, rfl⟩, fun entry member => has_append.mpr ⟨apart entry member, ?_⟩,
        differ, accepts, by simp⟩
      rintro rfl
      exact fresh (List.mem_map_of_mem member)

end Reading

/-- Options can be given to begin with when they differ from one another and each
accepts its value. -/
theorem give_empty_iff :
    Reading.empty.give given = .ok final ↔ (given.map Prod.fst).Nodup ∧
      (∀ entry ∈ given, entry.1.accepts entry.2 = true) ∧ final = ⟨given, none⟩ := by
  rw [Reading.give_eq_ok_iff]
  simp [Reading.empty, Reading.has, Reading.value?]

/-! ## Reading what is spelled -/

theorem readLong_eq_ok_iff {name : String} :
    readLong options reading name value = .ok (next, pending) ↔
      ∃ given, spellLong options name value = some (given, pending) ∧
        reading.give given = .ok next := by
  unfold readLong spellLong
  cases options.find? fun option => option.long == name with
  | none => simp
  | some option =>
    cases value with
    | some value =>
      dsimp only [Option.bind_some]
      cases option.takesValue with
      | false => simp
      | true => simp [map_eq_ok_iff, Reading.give_singleton, and_comm]
    | none =>
      dsimp only [Option.bind_some]
      cases option.halt? with
      | some halt => simp
      | none =>
        cases option.takesValue with
        | false => simp [map_eq_ok_iff, Reading.give_singleton, and_comm]
        | true => simp [Reading.give_nil, and_comm]

theorem readShort_eq_ok_iff {letters : List Char} :
    readShort options reading letters = .ok (next, pending) ↔
      ∃ given, spellShort options letters = some (given, pending) ∧
        reading.give given = .ok next := by
  induction letters generalizing reading with
  | nil => simp [readShort, spellShort, Reading.give_nil, and_comm]
  | cons letter letters ih =>
    rw [readShort, spellShort]
    cases options.find? fun option => option.short? == some letter with
    | none => simp
    | some option =>
      dsimp only [Option.bind_some]
      cases option.halt? with
      | some halt => simp
      | none =>
        cases option.takesValue with
        | true =>
          simp only [if_true]
          split
          · simp [Reading.give_nil, and_comm]
          · simp [map_eq_ok_iff, Reading.give_singleton, and_comm]
          · simp [map_eq_ok_iff, Reading.give_singleton, and_comm]
        | false =>
          simp only [Bool.false_eq_true, if_false]
          cases added : reading.add option "" with
          | error halt => simp [Reading.give_cons, added]
          | ok reading => simp [ih, Reading.give_cons, added]

/-- At a level of options only, an argument that is no option is refused. -/
def TakesOptionsOnly (command : Option CommandName) : Prop :=
  ∀ name ∈ command, ∀ argument, name.takesArgument argument = false

theorem TakesOptionsOnly.readArgument (only : TakesOptionsOnly command) :
    readArgument command reading argument = .error .usage := by
  cases command with
  | none => rfl
  | some name => simp [CommandLine.readArgument, only name rfl argument]

/-- The name of a command does not look like an option. -/
theorem dashed_eq_none (h : CommandName.ofName? argument = some name) :
    Dashed.ofArgument? argument = none := by
  unfold CommandName.ofName? at h
  split at h
  case h_5 => cases h
  all_goals rfl

/-- Reading goes on behind an argument with the options that it spells. -/
theorem goOn_eq_ok_iff {read : Progress} {spelled : Option (Given × Option OptionName)}
    {result : Reading × Option (CommandName × List String)}
    (h : ∀ next pending, read = .ok (next, pending) ↔
      ∃ given, spelled = some (given, pending) ∧ reading.give given = .ok next) :
    (match read with
      | .error halt => Except.error halt
      | .ok (reading, pending) => scan command reading pending false rest) = .ok result ↔
      ∃ given after, spelled.map (fun (given, pending) => (given, Mode.mk pending false)) =
          some (given, after) ∧
        ∃ next, reading.give given = .ok next ∧
          scan command next after.pending after.isTrailing rest = .ok result := by
  constructor
  · intro goesOn
    cases read with
    | error halt => cases goesOn
    | ok read =>
      obtain ⟨given, spells, gives⟩ := (h _ _).mp rfl
      exact ⟨given, _, by rw [spells]; rfl, _, gives, goesOn⟩
  · rintro ⟨given, _, spells, next, gives, goesOn⟩
    obtain ⟨⟨given, pending⟩, spelled, ⟨⟩⟩ := Option.map_eq_some_iff.mp spells
    rw [(h next pending).mpr ⟨given, spelled, gives⟩]
    exact goesOn

/-- An argument spells options, or it is the name of a command and ends the level. -/
theorem scan_cons_eq_ok_iff (only : TakesOptionsOnly command)
    {result : Reading × Option (CommandName × List String)} :
    scan command reading mode.pending mode.isTrailing (argument :: rest) = .ok result ↔
      (∃ given after, spellArgument (levelOptions command) mode argument = some (given, after) ∧
        ∃ next, reading.give given = .ok next ∧
          scan command next after.pending after.isTrailing rest = .ok result) ∨
      (command = none ∧ mode = .start ∧ ∃ name, CommandName.ofName? argument = some name ∧
        result = (reading, some (name, rest))) := by
  rw [scan.eq_def]
  unfold spellArgument
  obtain ⟨pending, isTrailing⟩ := mode
  dsimp only
  cases isTrailing with
  | true => simp [only.readArgument, Mode.start]
  | false =>
    cases pending with
    | some option =>
      cases Dashed.ofArgument? argument with
      | some dashed => simp [Mode.start]
      | none =>
        dsimp only
        cases added : reading.add option argument <;>
          simp [Mode.start, Reading.give_singleton, added]
    | none =>
      cases dashed : Dashed.ofArgument? argument with
      | some form =>
        have unnamed : CommandName.ofName? argument = none := by
          by_contra named
          obtain ⟨name, named⟩ := Option.ne_none_iff_exists'.mp named
          rw [dashed_eq_none named] at dashed
          cases dashed
        simp only [unnamed, reduceCtorEq, false_and, exists_false, and_false, or_false]
        cases form with
        | separator => simp [Reading.give_nil]
        | long name value => exact goOn_eq_ok_iff fun next pending => readLong_eq_ok_iff
        | short letters => exact goOn_eq_ok_iff fun next pending => readShort_eq_ok_iff
      | none =>
        dsimp only
        rw [only.readArgument]
        cases command with
        | some name => simp
        | none =>
          cases CommandName.ofName? argument with
          | some name => simp [Mode.start, eq_comm]
          | none => by_cases help : argument = "help" <;> simp [help]

/-! ## Levels -/

theorem scan_nil_eq_ok_iff {result : Reading × Option (CommandName × List String)} :
    scan command reading mode.pending mode.isTrailing [] = .ok result ↔
      mode.pending = none ∧ result = (reading, none) := by
  rw [scan.eq_def]
  cases mode.pending <;> simp [eq_comm]

/-- A level of options only is read by giving the options that its arguments
spell. -/
theorem scan_eq_ok_iff (only : TakesOptionsOnly (some name))
    {found : Option (CommandName × List String)} :
    scan (some name) reading mode.pending mode.isTrailing arguments = .ok (final, found) ↔
      found = none ∧ ∃ given, spell name.options mode arguments = some given ∧
        reading.give given = .ok final := by
  induction arguments generalizing reading mode with
  | nil =>
    rw [scan_nil_eq_ok_iff, spell]
    cases mode.pending <;> simp [Reading.give_nil, eq_comm, and_comm]
  | cons argument arguments ih =>
    rw [scan_cons_eq_ok_iff only, spell]
    simp only [ih, reduceCtorEq, false_and, or_false, Option.bind_eq_some_iff,
      Option.map_eq_some_iff]
    constructor
    · rintro ⟨given, after, spells, next, gives, rfl, more, spellsMore, givesMore⟩
      exact ⟨rfl, _, ⟨(given, after), spells, more, spellsMore, rfl⟩,
        Reading.give_append.mpr ⟨next, gives, givesMore⟩⟩
    · rintro ⟨rfl, _, ⟨⟨given, after⟩, spells, more, spellsMore, rfl⟩, gives⟩
      obtain ⟨next, gives, givesMore⟩ := Reading.give_append.mp gives
      exact ⟨given, after, spells, next, gives, rfl, more, spellsMore, givesMore⟩

/-- The arguments of a level spell options, which differ from one another and accept
their values. -/
structure Spells (options : List OptionName) (arguments : List String) (given : Given) : Prop where
  spelled : spell options .start arguments = some given
  differ : (given.map Prod.fst).Nodup
  accepted : ∀ entry ∈ given, entry.1.accepts entry.2 = true

theorem scan_empty_iff (only : TakesOptionsOnly (some name)) :
    (∃ found, scan (some name) .empty none false arguments = .ok (reading, found)) ↔
      ∃ given, Spells name.options arguments given ∧ reading = ⟨given, none⟩ := by
  show (∃ found, scan (some name) .empty Mode.start.pending Mode.start.isTrailing arguments =
    .ok (reading, found)) ↔ _
  simp only [scan_eq_ok_iff only, give_empty_iff]
  constructor
  · rintro ⟨_, rfl, given, spelled, differ, accepted, rfl⟩
    exact ⟨given, ⟨spelled, differ, accepted⟩, rfl⟩
  · rintro ⟨given, ⟨spelled, differ, accepted⟩, rfl⟩
    exact ⟨none, rfl, given, spelled, differ, accepted, rfl⟩

theorem takesOptionsOnly_none : TakesOptionsOnly none := by
  intro name member
  cases member

/-- What stands before the name of a command spells options, and is read without
regard to what stands behind it. -/
theorem exists_command {before : Reading}
    (h : scan none reading mode.pending mode.isTrailing arguments =
      .ok (before, some (name, rest))) :
    ∃ front word, arguments = front ++ word :: rest ∧ CommandName.ofName? word = some name ∧
      (∀ argument ∈ front, ∃ mode, spellArgument (levelOptions none) mode argument ≠ none) ∧
      ∀ other, scan none reading mode.pending mode.isTrailing (front ++ word :: other) =
        .ok (before, some (name, other)) := by
  induction arguments generalizing reading mode with
  | nil => simp [scan_nil_eq_ok_iff] at h
  | cons argument arguments ih =>
    rcases (scan_cons_eq_ok_iff takesOptionsOnly_none).mp h with
      ⟨given, after, spells, next, gives, goesOn⟩ | ⟨-, begins, found, named, same⟩
    · obtain ⟨front, word, rfl, named, options, any⟩ := ih goesOn
      have spelled : spellArgument (levelOptions none) mode argument ≠ none := by
        rw [spells]
        exact Option.some_ne_none _
      refine ⟨argument :: front, word, rfl, named,
        List.forall_mem_cons.mpr ⟨⟨mode, spelled⟩, options⟩, fun other => ?_⟩
      exact (scan_cons_eq_ok_iff takesOptionsOnly_none).mpr
        (.inl ⟨given, after, spells, next, gives, any other⟩)
    · cases same
      refine ⟨[], argument, rfl, named, nofun, fun other => ?_⟩
      exact (scan_cons_eq_ok_iff takesOptionsOnly_none).mpr (.inr ⟨rfl, begins, name, named, rfl⟩)

end FactoryOverloads.CommandLine
