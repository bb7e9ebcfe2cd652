import Mathlib
import FactoryOverloads.CommandLine.Resolve
import FactoryOverloads.Proofs.CommandLine.Requesting
import FactoryOverloads.Proofs.Settings.Keys

/-!
# Which settings count

Each setting of a generation or a check is decided by itself. The options behind
the command come first, and for some of them a variable of the environment stands
in (`Consults`). Then comes the settings file, where a relative destination is meant
from the directory of the file (`Settings.FileStates`), and the default comes last
(`GeneratorOptions.resolve_eq_ok_iff`). There are no settings only if the file that
is asked for is not there, or the one that is used is no settings file, whatever the
options say (`settings_take_first_present`).
-/

namespace FactoryOverloads

variable {tree : FileTree} {settings : Settings} {path : String}

/-! ## Settings files -/

namespace Settings

variable {layer : Layer}

/-- A destination seen from the directory of the file that states it. -/
def seenFrom (path output : String) : String :=
  if Path.isAbsolute output then output else Path.join (Path.directory path) output

/-- The file at a path is a settings file with the keys of a layer, where the
destination is seen from the directory of the file. -/
def FileStates (tree : FileTree) (path : String) (layer : Layer) : Prop :=
  ∃ text document stated, tree.readText path = .ok text ∧
    Yaml.Value.read text = .ok document ∧ States document stated ∧
    layer = { stated with output := stated.output.map (seenFrom path) }

theorem join_directory (path : String) : Path.join (Path.directory path) = seenFrom path := by
  funext output
  unfold seenFrom
  split
  · next absolute => rw [Path.join, if_pos absolute]
  · rfl

theorem ofFile_eq_ok_iff : Layer.ofFile tree path = .ok layer ↔ FileStates tree path layer := by
  unfold Layer.ofFile FileStates
  cases tree.readText path with
  | error cause => simp
  | ok text =>
    show (fun layer => layer.rebase path) <$> Layer.read text = .ok layer ↔ _
    simp only [map_eq_ok_iff, Layer.read_eq_ok_iff, Layer.rebase, join_directory, Except.ok.injEq]
    constructor
    · rintro ⟨stated, ⟨document, read, states⟩, rfl⟩
      exact ⟨text, document, stated, rfl, read, states, rfl⟩
    · rintro ⟨_, document, stated, rfl, read, states, rfl⟩
      exact ⟨stated, ⟨document, read, states⟩, rfl⟩

end Settings

namespace CommandLine

/-! ## Options and variables -/

variable {environment : Environment} {given : Given} {option : OptionName}
  {options : GeneratorOptions}

/-- What the generator is asked for: what is given counts before a variable of the
environment, where there is one. -/
structure Consults (environment : Environment) (given : Given) (options : GeneratorOptions) :
    Prop where
  config : options.config =
    (given.lookup .config).or (environment.find? "GENMAKEIMPL_CONFIG")
  output : options.output =
    (given.lookup .output).or (environment.find? "GENMAKEIMPL_OUTPUT")
  maxArity : ((given.lookup .maxArity).or (environment.find? "GENMAKEIMPL_MAX_ARITY")).mapM
    parseNumber? = some options.maxArity
  minArity : (given.lookup .minArity).mapM parseNumber? = some options.minArity
  target : (given.lookup .target).mapM Target.ofName? = some options.target

/-- A value that can be read is read. -/
theorem mapM_eq_some_bind {α : Type} {read : String → Option α} {text? : Option String}
    (readable : ∀ text ∈ text?, (read text).isSome = true) :
    text?.mapM read = some (text?.bind read) := by
  cases text? with
  | none => rfl
  | some text =>
    obtain ⟨value, reads⟩ := Option.isSome_iff_exists.mp (readable text rfl)
    simp [Option.mapM, reads]

theorem accepts_of_lookup (accepted : ∀ entry ∈ given, entry.1.accepts entry.2 = true) :
    ∀ text ∈ given.lookup option, option.accepts text = true := by
  intro text found
  obtain ⟨before, behind, rfl, -⟩ := List.lookup_eq_some_iff.mp found
  exact accepted (option, text) (by simp)

theorem effectiveValue_eq_ok (accepted : ∀ entry ∈ given, entry.1.accepts entry.2 = true)
    {text? : Option String} (h : effectiveValue environment ⟨given, none⟩ option = .ok text?) :
    text? = (given.lookup option).or (option.variableName?.bind environment.find?) ∧
      ∀ text ∈ text?, option.accepts text = true := by
  have spelled : ∀ text ∈ given.lookup option, option.accepts text = true :=
    accepts_of_lookup accepted
  unfold effectiveValue Reading.value? at h
  cases found : given.lookup option with
  | some text =>
    rw [found] at h spelled
    cases h
    exact ⟨rfl, spelled⟩
  | none =>
    rw [found] at h
    cases set : option.variableName?.bind environment.find? with
    | none =>
      rw [set] at h
      cases h
      exact ⟨rfl, nofun⟩
    | some text =>
      simp only [set, Except.ok.injEq, ite_eq_iff, reduceCtorEq, and_false, or_false] at h
      obtain ⟨accepts, rfl⟩ := h
      refine ⟨rfl, fun _ member => ?_⟩
      cases member
      exact accepts

theorem consults_of_generatorOptions
    (accepted : ∀ entry ∈ given, entry.1.accepts entry.2 = true)
    (h : generatorOptions environment ⟨given, none⟩ = .ok options) :
    Consults environment given options := by
  simp only [generatorOptions, bind_eq_ok_iff] at h
  obtain ⟨config, configured, output, placed, maxArity, bounded, ⟨⟩⟩ := h
  obtain ⟨rfl, -⟩ := effectiveValue_eq_ok accepted configured
  obtain ⟨rfl, -⟩ := effectiveValue_eq_ok accepted placed
  obtain ⟨rfl, readable⟩ := effectiveValue_eq_ok accepted bounded
  exact ⟨rfl, rfl, mapM_eq_some_bind readable, mapM_eq_some_bind (accepts_of_lookup accepted),
    mapM_eq_some_bind (accepts_of_lookup accepted)⟩

/-! ## The settings file -/

namespace GeneratorOptions

/-- The settings file that is used: the one asked for, or else the one of the usual
name where there is one. -/
def usedFile? (options : GeneratorOptions) (tree : FileTree) : Option String :=
  options.config.or (if tree.contains Settings.fileName then some Settings.fileName else none)

/-- A settings file is asked for that is not there. -/
def LacksFile (options : GeneratorOptions) (tree : FileTree) : Prop :=
  ∃ path, options.config = some path ∧ tree.contains path = false

/-- What the settings file states that is used, and nothing if none is used. -/
def UsesLayer (options : GeneratorOptions) (tree : FileTree) (file : Settings.Layer) : Prop :=
  match options.usedFile? tree with
  | some path => Settings.FileStates tree path file
  | none => file = .empty

theorem settingsFile_of_lacksFile (lacks : options.LacksFile tree) :
    ∃ cause, options.settingsFile tree = .error cause := by
  obtain ⟨path, named, absent⟩ := lacks
  rw [settingsFile, named]
  simp [absent]

theorem exists_settingsFile_eq (there : ¬ options.LacksFile tree) :
    ∃ records, options.settingsFile tree = .ok (options.usedFile? tree, records) := by
  unfold settingsFile usedFile?
  cases named : options.config with
  | some path =>
    have present : tree.contains path = true := by
      rw [← Bool.not_eq_false]
      exact fun absent => there ⟨path, named, absent⟩
    exact ⟨[], by simp [present]⟩
  | none => cases tree.contains Settings.fileName <;> exact ⟨_, rfl⟩

theorem fileLayer_eq_ok_iff {file : Settings.Layer} :
    fileLayer tree (options.usedFile? tree) = .ok file ↔ options.UsesLayer tree file := by
  unfold UsesLayer
  cases options.usedFile? tree with
  | none => simp [fileLayer, eq_comm]
  | some path =>
    dsimp only
    rw [← Settings.ofFile_eq_ok_iff, fileLayer]
    cases Settings.Layer.ofFile tree path <;> simp [Except.mapError]

/-- An option counts before the file, and the file before the default. -/
theorem resolve_eq_ok_iff :
    (options.resolve tree).1 = .ok settings ↔ ¬ options.LacksFile tree ∧
      ∃ file, options.UsesLayer tree file ∧
        settings = (Settings.default.overlay file).overlay options.layer := by
  unfold resolve
  by_cases lacks : options.LacksFile tree
  · obtain ⟨cause, failed⟩ := settingsFile_of_lacksFile lacks
    simp [failed, lacks]
  · obtain ⟨records, found⟩ := exists_settingsFile_eq lacks
    rw [found]
    show (fun layer => (Settings.default.overlay layer).overlay options.layer) <$>
      fileLayer tree (options.usedFile? tree) = .ok settings ↔ _
    simp only [map_eq_ok_iff, fileLayer_eq_ok_iff, lacks, not_false_eq_true, true_and,
      eq_comm (a := settings)]

theorem exists_usesLayer_iff :
    (∃ file, options.UsesLayer tree file) ↔
      ¬ ∃ path, options.usedFile? tree = some path ∧
        ¬ ∃ layer, Settings.FileStates tree path layer := by
  unfold UsesLayer
  cases options.usedFile? tree <;> simp

/-- There are no settings exactly when the file that is asked for is not there, or the
one that is used is no settings file. -/
theorem resolve_eq_error_iff :
    (∃ cause, (options.resolve tree).1 = .error cause) ↔
      options.LacksFile tree ∨ ∃ path, options.usedFile? tree = some path ∧
        ¬ ∃ layer, Settings.FileStates tree path layer := by
  have fails : (∃ cause, (options.resolve tree).1 = .error cause) ↔
      ¬ ∃ settings, (options.resolve tree).1 = .ok settings := by
    cases (options.resolve tree).1 <;> simp
  have resolves : (∃ settings, (options.resolve tree).1 = .ok settings) ↔
      ¬ options.LacksFile tree ∧ ∃ file, options.UsesLayer tree file := by
    simp only [resolve_eq_ok_iff, exists_and_left]
    refine and_congr_right fun _ => ⟨fun ⟨_, file, uses, _⟩ => ⟨file, uses⟩, fun ⟨file, uses⟩ => ?_⟩
    exact ⟨_, file, uses, rfl⟩
  rw [fails, resolves, exists_usesLayer_iff, not_and_or, not_not, not_not]

end GeneratorOptions

/-- A command line that asks for a generation or a check has options behind its
command, and what they do not say is taken from the environment as far as that has a
variable for it. Each setting is what the options state, or else what the settings
file states, or else the default. There are none exactly when the file that is asked
for is not there, or the one that is used is no settings file. -/
theorem settings_take_first_present (environment : Environment) (arguments : List String)
    (tree : FileTree) (invocation : Invocation) (options : GeneratorOptions)
    (parsed : parse environment arguments = .ok invocation)
    (selects : invocation.command.selection? = some options) :
    (∃ before name given, (name = .generate ∨ name = .check) ∧
      Asks arguments before name given ∧ Consults environment given options) ∧
    ((∃ cause, (options.resolve tree).1 = .error cause) ↔
      (∃ path, options.config = some path ∧ tree.contains path = false) ∨
      ∃ path, options.usedFile? tree = some path ∧
        ¬ ∃ layer, Settings.FileStates tree path layer) ∧
    ∀ settings, (options.resolve tree).1 = .ok settings →
      ∃ file, options.UsesLayer tree file ∧
        settings.minArity = (options.minArity.or file.minArity).getD 1 ∧
        settings.maxArity = (options.maxArity.or file.maxArity).getD 16 ∧
        settings.output = (options.output.or file.output).getD
          "src/common/utilities/config/generated_makeimpl.hpp" ∧
        settings.target = (options.target.or file.target).getD .cpp := by
  refine ⟨?asks, GeneratorOptions.resolve_eq_error_iff, fun settings resolved => ?first⟩
  case asks =>
    have some : invocation.command.selection?.isSome = true := by rw [selects]; rfl
    obtain ⟨before, name, given, generates, asks, means⟩ := parse_eq_ok_iff_asks.mp ⟨parsed, some⟩
    obtain ⟨rest, -, spells⟩ := id asks
    exact ⟨before, name, given, generates, asks,
      consults_of_generatorOptions spells.accepted (means.generatorOptions_eq_ok selects)⟩
  case first =>
    obtain ⟨-, file, uses, rfl⟩ := GeneratorOptions.resolve_eq_ok_iff.mp resolved
    have first {α : Type} (option file : Option α) (fallback : α) :
        option.getD (file.getD fallback) = (option.or file).getD fallback := by
      cases option <;> rfl
    exact ⟨file, uses, first _ _ _, first _ _ _, first _ _ _, first _ _ _⟩

theorem settings_take_first_present_of_file_in_directory :
    (GeneratorOptions.resolve ⟨some "sub/c.yaml", none, some 3, some 2, none⟩
      ⟨[(["work"], .directory false), (["work", "sub"], .directory false),
        (["work", "sub", "c.yaml"], .file "output: a.hpp".toUTF8)], ["work"]⟩).1 =
      .ok ⟨2, 3, "sub/a.hpp", .cpp⟩ := by
  obtain ⟨tree, own⟩ : ∃ tree : FileTree,
      tree = ⟨[(["work"], .directory false), (["work", "sub"], .directory false),
        (["work", "sub", "c.yaml"], .file "output: a.hpp".toUTF8)], ["work"]⟩ := ⟨_, rfl⟩
  have text : tree.readText "sub/c.yaml" = .ok "output: a.hpp" := by rw [own]; rfl
  have there : tree.contains "sub/c.yaml" = true := by rw [own]; rfl
  have read : Settings.Layer.read "output: a.hpp" = .ok ⟨none, none, some "a.hpp", none⟩ := by cbv
  have stated (layer : Settings.Layer) : Settings.FileStates tree "sub/c.yaml" layer ↔
      layer = ⟨none, none, some "sub/a.hpp", none⟩ := by
    rw [← Settings.ofFile_eq_ok_iff, Settings.Layer.ofFile, text]
    dsimp only
    rw [read]
    exact ⟨fun same => (Except.ok.inj same).symm, fun same => congrArg Except.ok same.symm⟩
  have parsed : parse ⟨[("GENMAKEIMPL_MAX_ARITY", "3")]⟩
      ["generate", "--config=sub/c.yaml", "--min-arity", "2"] =
    .ok ⟨.generate ⟨some "sub/c.yaml", none, some 3, some 2, none⟩ false false false, "auto",
      "info"⟩ := rfl
  obtain ⟨-, fails, first⟩ := settings_take_first_present _ _ tree _ _ parsed rfl
  rw [← own]
  cases resolved :
      (GeneratorOptions.resolve ⟨some "sub/c.yaml", none, some 3, some 2, none⟩ tree).1 with
  | error cause =>
    rcases fails.mp ⟨cause, resolved⟩ with ⟨_, ⟨⟩, absent⟩ | ⟨_, ⟨⟩, unread⟩
    · rw [there] at absent
      cases absent
    · exact absurd ⟨_, (stated _).mpr rfl⟩ unread
  | ok settings =>
    obtain ⟨file, uses, minArity, maxArity, output, target⟩ := first settings resolved
    cases (stated file).mp uses
    obtain ⟨_, _, _, _⟩ := settings
    cases minArity
    cases maxArity
    cases output
    cases target
    rfl

end CommandLine

end FactoryOverloads
