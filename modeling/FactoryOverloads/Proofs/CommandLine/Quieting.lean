import FactoryOverloads.Program
import FactoryOverloads.Proofs.CommandLine.Checking
import FactoryOverloads.Proofs.CommandLine.Inserting
import FactoryOverloads.Proofs.Log.Levels

/-!
# Quiet runs

A wish for quiet changes what a run tells, and nothing else: the command is run in the
same way (`CommandLine.run_quieted`). Of the status lines those of failures are left,
which do not depend on the time the run takes (`Console.lines_quiet_sublist`).

The log is another matter. A quiet run logs its warnings, whatever level is asked for.
So what it logs is a part of what the run logs otherwise exactly when that shows the
warnings too (`Program.loggedRecords_quieted_sublist_iff`,
`Program.quiet_run_tells_less`), and a run that is to log errors only logs more when it
is quiet (`Program.quiet_run_logs_more`). None of this depends on how the library
searches the texts of records.
-/

namespace FactoryOverloads

variable {tree : FileTree} {environment : Environment} {elapsed own : String}

/-- What passes one of two filters is a part of what passes the other. -/
theorem filter_sublist_filter_iff {α : Type} {p q : α → Bool} {items : List α} :
    (items.filter p).Sublist (items.filter q) ↔ ∀ item ∈ items, p item = true → q item = true := by
  constructor
  · intro part item member passes
    exact (List.mem_filter.mp (part.subset (List.mem_filter.mpr ⟨member, passes⟩))).2
  · intro passes
    have again : items.filter p = (items.filter q).filter p := by
      rw [List.filter_filter]
      refine List.filter_congr fun item member => ?_
      cases first : p item with
      | false => rfl
      | true => rw [passes item member first]; rfl
    rw [again]
    exact List.filter_sublist

/-! ## Status lines -/

theorem Notice.text_of_failure {notice : Notice} (failure : notice.status = .failure) :
    notice.text elapsed = notice.text own := by
  cases notice
  case generated => cases failure
  all_goals rfl

/-- The lines of a quiet console are those of failures, whenever the run ends. -/
theorem Console.lines_quiet_sublist (console : Console) (styles : Bool) (notices : List Notice) :
    ((console.withQuiet true).lines styles elapsed notices).Sublist
      ((console.withQuiet false).lines styles own notices) := by
  have shown : notices.filter (console.withQuiet false).shows = notices :=
    List.filter_eq_self.mpr fun notice _ => rfl
  have lines : (console.withQuiet true).lines styles elapsed notices =
      (notices.filter (console.withQuiet true).shows).map fun notice =>
        (console.withQuiet false).line styles notice.status (notice.text own) := by
    refine List.map_congr_left fun notice member => ?_
    have failure : notice.status = .failure := by
      simpa [Console.shows, Console.withQuiet] using (List.mem_filter.mp member).2
    rw [Notice.text_of_failure failure]
    rfl
  rw [lines, Console.lines, shown]
  exact List.filter_sublist.map _

/-! ## Warnings -/

namespace Generation

variable {State : Type} {engine : Engine State} {state : State} {settings : Settings}
  {artifact : Artifact} {location : Location}

/-- Building an artifact is not worth a warning. -/
theorem level_ne_warn_of_mem_buildRecords {record : Record}
    (member : record ∈ buildRecords settings artifact) : record.level ≠ .warn := by
  simp only [buildRecords, List.mem_append, List.mem_flatMap, List.mem_cons, List.not_mem_nil,
    or_false] at member
  rcases member with ⟨arity, -, rfl | rfl⟩ | rfl <;> exact nofun

/-- A run that completes warns of the name of its destination, and of nothing else. -/
theorem warnings_of_completes (h : Completes engine state settings tree artifact location) :
    (run engine state settings false tree).records.filter (·.level == .warn) =
      settings.extensionWarning := by
  obtain ⟨warnings, checked⟩ := h.checked
  obtain ⟨-, -, rfl⟩ := Settings.checkDestination_eq_ok_iff.mp checked
  have built : (buildRecords settings artifact).filter (·.level == .warn) = [] :=
    List.filter_eq_nil_iff.mpr fun record member =>
      mt beq_iff_eq.mp (level_ne_warn_of_mem_buildRecords member)
  have warned :
      settings.extensionWarning.filter (·.level == .warn) = settings.extensionWarning := by
    unfold Settings.extensionWarning
    split <;> rfl
  unfold run
  rw [h.valid]
  dsimp only
  rw [if_neg Bool.false_ne_true, checked]
  dsimp only
  rw [h.built]
  dsimp only
  rw [if_neg Bool.false_ne_true, artifact.writeWith_of_takes h.takes]
  dsimp only
  rw [List.filter_append, List.filter_append, List.filter_append, warned, built]
  simp [Record.level]

end Generation

/-! ## Runs -/

namespace CommandLine

variable {command : Command}

/-- Commands do not look at the wish for quiet. -/
theorem run_quieted (tree : FileTree) (command : Command) :
    run tree command.quieted = run tree command := by
  cases command <;> rfl

theorem isQuiet_quieted (selects : command.selection?.isSome = true) :
    command.quieted.isQuiet = true := by
  cases command with
  | generate options isDryRun isVerbose isQuiet => rfl
  | check options isQuiet => rfl
  | plan arity format => cases selects
  | completions shell => cases selects

/-- A generation whose run completes logs the warnings of that run. -/
theorem warnings_of_runGenerate {options : GeneratorOptions} {settings : Settings}
    {artifact : Artifact} {location : Location} (isVerbose : Bool)
    (resolved : options.resolve tree = (.ok settings, []))
    (h : Generation.Completes Engine.placeholder () settings tree artifact location) :
    (runGenerate options false isVerbose tree).records.filter (·.level == .warn) =
      settings.extensionWarning := by
  rw [← Generation.warnings_of_completes h]
  unfold runGenerate
  rw [resolved]
  dsimp only
  split <;> rfl

/-- A generation or a check prints nothing besides its status lines. -/
theorem print_run (selects : command.selection?.isSome = true) :
    (run tree command).print = .nothing := by
  cases command with
  | generate options isDryRun isVerbose isQuiet =>
    show (runGenerate options isDryRun isVerbose tree).print = .nothing
    unfold runGenerate
    split
    · rfl
    · dsimp only
      split <;> rfl
  | check options isQuiet =>
    show (runCheck options tree).print = .nothing
    unfold runCheck
    split
    · rfl
    · split
      · rfl
      · dsimp only
        split <;> rfl
  | plan arity format => cases selects
  | completions shell => cases selects

end CommandLine

namespace Program

open CommandLine (AsksForQuiet GeneratorOptions Invocation)

variable {arguments : List String} {invocation loud : Invocation} {library : Library}

/-- The status lines of a request. -/
def statusLines (environment : Environment) (invocation : Invocation) (elapsed : String)
    (tree : FileTree) : List String :=
  ((Console.ofWish invocation.color environment).withQuiet invocation.command.isQuiet).lines
    environment.stylesLines elapsed (CommandLine.run tree invocation.command).notices

/-- The records that a request shows in its log. -/
def loggedRecords (library : Library) (invocation : Invocation) (tree : FileTree) : List Record :=
  (CommandLine.run tree invocation.command).records.filter
    (Filter.parse library.search invocation.logSpecification).1.shows

/-- What a run complains of in the specification of its log. -/
def complaintLines (library : Library) (invocation : Invocation) : List String :=
  (Filter.parse library.search invocation.logSpecification).2.map fun complaint =>
    "warning: " ++ complaint ++ ", ignoring it"

/-- Lines as a text. -/
def ofLines (lines : List String) : String := String.join (lines.map (· ++ "\n"))

/-- The report of the error of a request, if it fails. -/
def reportText (invocation : Invocation) (tree : FileTree) : String :=
  ((CommandLine.run tree invocation.command).error.map CommandLine.CommandError.report).getD ""

/-- A result tells lines on standard output, and complaints, the records of a log and a
report on standard error. -/
structure Tells (environment : Environment) (result : Result) (lines complaints : List String)
    (records : List Record) (report : String) : Prop where
  output : result.output = ofLines lines
  errors : result.errors =
    ofLines (complaints ++ records.map (·.line environment.stylesRecords)) ++ report

/-- A generation or a check writes its status lines to standard output, and its log
before the report of its error to standard error. -/
theorem tells_run (parsed : CommandLine.parse environment arguments = .ok invocation)
    (selects : invocation.command.selection?.isSome = true) (elapsed : String)
    (tree : FileTree) (library : Library) :
    Tells environment (run environment arguments elapsed tree library)
      (statusLines environment invocation elapsed tree) (complaintLines library invocation)
      (loggedRecords library invocation tree) (reportText invocation tree) := by
  have complaint (part : String) : "warning: " ++ part ++ ", ignoring it" ++ "\n" =
      "warning: " ++ part ++ ", ignoring it\n" := by
    rw [String.append_assoc]
    rfl
  have log : ofLines (complaintLines library invocation ++
      (loggedRecords library invocation tree).map (·.line environment.stylesRecords)) =
      logText library environment invocation
        (CommandLine.run tree invocation.command).records := by
    simp only [ofLines, complaintLines, loggedRecords, logText, List.map_append, List.map_map,
      Function.comp_def, complaint]
  unfold run
  rw [parsed]
  constructor
  · dsimp only
    rw [present, CommandLine.print_run selects, printText, String.append_empty]
    rfl
  · rw [log]
    rfl

theorem logSpecification_quieted (selects : invocation.command.selection?.isSome = true) :
    invocation.quieted.logSpecification = Level.warn.word :=
  if_pos (CommandLine.isQuiet_quieted selects)

theorem loggedRecords_quieted (selects : invocation.command.selection?.isSome = true) :
    loggedRecords library invocation.quieted tree =
      (CommandLine.run tree invocation.command).records.filter (·.level == .warn) := by
  have run : CommandLine.run tree invocation.quieted.command =
      CommandLine.run tree invocation.command := CommandLine.run_quieted tree _
  rw [loggedRecords, logSpecification_quieted selects, Filter.parse_word, run]
  refine List.filter_congr fun record _ => ?_
  rw [Bool.eq_iff_iff, Record.shows_warn_iff, beq_iff_eq]

/-- A quiet run logs a part of what the run logs otherwise exactly when that shows all
warnings. -/
theorem loggedRecords_quieted_sublist_iff (selects : loud.command.selection?.isSome = true)
    (isLoud : loud.command.isQuiet = false) :
    (loggedRecords library loud.quieted tree).Sublist (loggedRecords library loud tree) ↔
      ∀ record ∈ (CommandLine.run tree loud.command).records, record.level = .warn →
        (Filter.parse library.search loud.logLevel).1.shows record = true := by
  have specification : loud.logSpecification = loud.logLevel :=
    if_neg (Bool.eq_false_iff.mp isLoud)
  rw [loggedRecords_quieted selects, loggedRecords, specification, filter_sublist_filter_iff]
  simp only [beq_iff_eq]

/-- To every request for a generation or a check that is not quiet, a wish for quiet can
be added. Wherever it is added, the exit code and the tree are the same, and the status
lines are a part of those told without the wish, in the same order. The log is a part of
the one without the wish exactly when that shows all warnings. -/
theorem quiet_run_tells_less (environment : Environment) (library : Library) :
    (∀ arguments loud, CommandLine.parse environment arguments = .ok loud →
      loud.command.selection?.isSome = true → loud.command.isQuiet = false →
      ∃ front back, arguments = front ++ back ∧ ∀ flag, AsksForQuiet flag →
        CommandLine.parse environment (front ++ flag :: back) = .ok loud.quieted) ∧
    ∀ front flag back quiet, AsksForQuiet flag →
      CommandLine.parse environment (front ++ flag :: back) = .ok quiet →
      quiet.command.selection?.isSome = true →
      ∃ loud, CommandLine.parse environment (front ++ back) = .ok loud ∧
        loud.command.isQuiet = false ∧ quiet = loud.quieted ∧
        ∀ elapsed own tree,
          (run environment (front ++ flag :: back) elapsed tree library).exitCode =
            (run environment (front ++ back) own tree library).exitCode ∧
          (run environment (front ++ flag :: back) elapsed tree library).tree =
            (run environment (front ++ back) own tree library).tree ∧
          (∃ report,
            Tells environment (run environment (front ++ flag :: back) elapsed tree library)
              (statusLines environment quiet elapsed tree) [] (loggedRecords library quiet tree)
              report ∧
            Tells environment (run environment (front ++ back) own tree library)
              (statusLines environment loud own tree) (complaintLines library loud)
              (loggedRecords library loud tree) report) ∧
          (statusLines environment quiet elapsed tree).Sublist
            (statusLines environment loud own tree) ∧
          ((loggedRecords library quiet tree).Sublist (loggedRecords library loud tree) ↔
            ∀ record ∈ (CommandLine.run tree loud.command).records, record.level = .warn →
              (Filter.parse library.search loud.logLevel).1.shows record = true) := by
  refine ⟨fun arguments loud parsed selects isLoud =>
    CommandLine.exists_insert parsed selects isLoud,
    fun front flag back quiet wish parsed selects => ?_⟩
  obtain ⟨loud, parsedLoud, selectsLoud, isLoud, rfl⟩ :=
    CommandLine.parse_of_insert wish parsed selects
  refine ⟨loud, parsedLoud, isLoud, rfl, fun elapsed own tree => ?_⟩
  have same : CommandLine.run tree loud.quieted.command = CommandLine.run tree loud.command :=
    CommandLine.run_quieted tree _
  obtain ⟨exit, left⟩ := run_of_requests ⟨_, parsed, rfl⟩ elapsed tree library
  obtain ⟨exitLoud, leftLoud⟩ := run_of_requests ⟨_, parsedLoud, rfl⟩ own tree library
  refine ⟨?exitCode, ?tree,
    ⟨reportText loud tree, ?tells, tells_run parsedLoud selectsLoud own tree library⟩,
    ?status, loggedRecords_quieted_sublist_iff selectsLoud isLoud⟩
  case exitCode => rw [exit, exitLoud, same]
  case tree => rw [left, leftLoud, same]
  case tells =>
    have tells := tells_run parsed selects elapsed tree library
    rw [complaintLines, logSpecification_quieted selectsLoud, Filter.parse_word] at tells
    rw [reportText, ← same]
    exact tells
  case status =>
    have quiet : loud.quieted.command.isQuiet = true := CommandLine.isQuiet_quieted selectsLoud
    rw [statusLines, statusLines, quiet, isLoud, same]
    exact Console.lines_quiet_sublist _ _ _

theorem quiet_run_tells_less_at_default_level :
    ∃ loud, CommandLine.parse ⟨[]⟩ ["check", "-o", "out.txt"] = .ok loud ∧
      CommandLine.parse ⟨[]⟩ ["check", "-o", "out.txt", "-q"] = .ok loud.quieted ∧
      ∀ tree, (run ⟨[]⟩ ["check", "-o", "out.txt", "-q"] "0.00" tree).exitCode =
          (run ⟨[]⟩ ["check", "-o", "out.txt"] "0.01" tree).exitCode ∧
        (loggedRecords .plain loud.quieted tree).Sublist (loggedRecords .plain loud tree) := by
  have parsed : CommandLine.parse ⟨[]⟩ ["check", "-o", "out.txt", "-q"] =
    .ok ⟨.check ⟨none, some "out.txt", none, none, none⟩ true, "auto", "info"⟩ := rfl
  obtain ⟨loud, parsedLoud, -, same, runs⟩ := (quiet_run_tells_less ⟨[]⟩ .plain).2
    ["check", "-o", "out.txt"] "-q" [] _ (.inl rfl) parsed rfl
  have level : loud.logLevel = Level.info.word := congrArg Invocation.logLevel same.symm
  refine ⟨loud, parsedLoud, same ▸ parsed, fun tree => ?_⟩
  obtain ⟨exit, -, -, -, log⟩ := runs "0.00" "0.01" tree
  refine ⟨exit, same ▸ log.mpr fun record _ warns => ?_⟩
  rw [level, Filter.parse_word, Filter.shows_ofLevel, warns]
  rfl

theorem loggedRecords_of_error (isLoud : loud.command.isQuiet = false)
    (level : loud.logLevel = Level.error.word) : loggedRecords library loud tree = [] := by
  have specification : loud.logSpecification = Level.error.word :=
    (if_neg (Bool.eq_false_iff.mp isLoud)).trans level
  rw [loggedRecords, specification, Filter.parse_word]
  exact List.filter_eq_nil_iff.mpr fun record _ => Bool.eq_false_iff.mp Record.shows_error

/-- A run that is to log errors only logs nothing, and the same run with a wish for quiet
logs a warning. -/
theorem quiet_run_logs_more :
    (run ⟨[]⟩ ["generate", "-o", "out.txt", "--max-arity", "1", "--log-level", "error"] "0.00"
      ⟨[(["work"], .directory false)], ["work"]⟩).errors = "" ∧
    (run ⟨[]⟩ ["generate", "-o", "out.txt", "--max-arity", "1", "--log-level", "error", "-q"] "0.00"
      ⟨[(["work"], .directory false)], ["work"]⟩).errors =
      "[WARN  genmakeimpl::config] Destination 'out.txt' does not use the .hpp extension " ++
        "expected for this target\n" := by
  obtain ⟨tree, own⟩ : ∃ tree : FileTree, tree = ⟨[(["work"], .directory false)], ["work"]⟩ :=
    ⟨_, rfl⟩
  obtain ⟨loud, isLoud⟩ : ∃ loud : Invocation,
      loud = ⟨.generate ⟨none, some "out.txt", some 1, none, none⟩ false false false, "auto",
        "error"⟩ := ⟨_, rfl⟩
  have parsedLoud : CommandLine.parse ⟨[]⟩
      ["generate", "-o", "out.txt", "--max-arity", "1", "--log-level", "error"] = .ok loud := by
    rw [isLoud]
    rfl
  have parsedQuiet : CommandLine.parse ⟨[]⟩
      ["generate", "-o", "out.txt", "--max-arity", "1", "--log-level", "error", "-q"] =
      .ok loud.quieted := by
    rw [isLoud]
    rfl
  have selects : loud.command.selection?.isSome = true := by rw [isLoud]; rfl
  have resolved : GeneratorOptions.resolve ⟨none, some "out.txt", some 1, none, none⟩ tree =
      (.ok ⟨1, 1, "out.txt", .cpp⟩, []) := by
    rw [own]
    rfl
  obtain ⟨artifact, completes⟩ : ∃ artifact, Generation.Completes Engine.placeholder ()
      ⟨1, 1, "out.txt", .cpp⟩ tree artifact ["work", "out.txt"] := by
    rw [own]
    exact Generation.exists_completes rfl ⟨_, rfl⟩ ⟨⟨_, rfl⟩, rfl⟩
  have ran : CommandLine.run tree loud.command =
      CommandLine.runGenerate ⟨none, some "out.txt", some 1, none, none⟩ false false tree := by
    rw [isLoud]
    rfl
  have ranQuiet : CommandLine.run tree loud.quieted.command = CommandLine.run tree loud.command :=
    CommandLine.run_quieted tree _
  have succeeds : (CommandLine.run tree loud.command).error = none := by
    rw [ran]
    exact CommandLine.Transcript.exitCode_eq_zero_iff.mp
      (CommandLine.runGenerate_of_completes false (congrArg Prod.fst resolved) completes).1
  have log : loggedRecords .plain loud tree = [] :=
    loggedRecords_of_error (by rw [isLoud]; rfl) (by rw [isLoud]; rfl)
  have quietLog : loggedRecords .plain loud.quieted tree = [.unusualExtension "out.txt" "hpp"] := by
    rw [loggedRecords_quieted selects, ran,
      CommandLine.warnings_of_runGenerate false resolved completes]
    rfl
  rw [← own]
  constructor
  · have complaints : complaintLines .plain loud = [] := by
      rw [complaintLines, isLoud]
      show (Filter.parse _ Level.error.word).2.map _ = []
      rw [Filter.parse_word]
      rfl
    rw [(tells_run parsedLoud selects "0.00" tree .plain).errors, complaints, log, reportText,
      succeeds]
    rfl
  · have complaints : complaintLines .plain loud.quieted = [] := by
      rw [complaintLines, logSpecification_quieted selects, Filter.parse_word]
      rfl
    have selectsQuiet : loud.quieted.command.selection?.isSome = true := by rw [isLoud]; rfl
    rw [(tells_run parsedQuiet selectsQuiet "0.00" tree .plain).errors, complaints, quietLog,
      reportText, ranQuiet, succeeds]
    decide +kernel

end Program

end FactoryOverloads
