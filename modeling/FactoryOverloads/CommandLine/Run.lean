import FactoryOverloads.CommandLine.Resolve
import FactoryOverloads.Console
import FactoryOverloads.Generation
import FactoryOverloads.Signature.Json
import FactoryOverloads.Signature.Listing

/-!
# Running commands

`CommandLine.run` runs a command on a file tree. What comes of it is a `Transcript`: what is told,
logged and printed, how the tree is left, and the error if there is one. Notices and records are not
texts yet, so that the effects of a command can be compared without looking at its output.
-/

namespace FactoryOverloads.CommandLine

attribute [local instance (high)] ByteArray.instDecidableEq

/-- What a command prints besides its notices. -/
inductive Print where
  | nothing
  | text (text : String)
  /-- The completion script for a shell. -/
  | completionScript (shell : Shell)
  deriving DecidableEq, Repr

/-- What comes of a command. -/
structure Transcript where
  /-- What is told on the way. -/
  notices : List Notice
  records : List Record
  print : Print
  tree : FileTree
  error : Option CommandError

namespace Transcript

/-- The transcript of a command that fails. -/
def failed (error : CommandError) (notices : List Notice) (records : List Record)
    (tree : FileTree) : Transcript :=
  ⟨notices, records, .nothing, tree, some error⟩

/-- The transcript of a command that succeeds. -/
def succeeded (notices : List Notice) (records : List Record) (tree : FileTree) : Transcript :=
  ⟨notices, records, .nothing, tree, none⟩

/-- The transcript of a command that only prints. -/
def printed (print : Print) (records : List Record) (tree : FileTree) : Transcript :=
  ⟨[], records, print, tree, none⟩

/-- The exit code of a command. -/
def exitCode (transcript : Transcript) : Nat := if transcript.error.isNone then 0 else 1

end Transcript

/-- What is told before generation. -/
def openingNotices (settings : Settings) (isDryRun isVerbose : Bool) : List Notice :=
  [.generating settings.target settings.minArity settings.maxArity] ++
    (if isVerbose then [.destination settings.output] else []) ++
    (if isDryRun then [.dryRun] else [])

/-- What is told after generation. -/
def closingNotices (report : Generation.Report) : List Notice :=
  [.generated report.overloads,
    if report.written then .written report.bytes report.destination
    else .wouldWrite report.bytes report.destination]

/-- Generate the artifact. -/
def runGenerate (options : GeneratorOptions) (isDryRun isVerbose : Bool) (tree : FileTree) :
    Transcript :=
  match options.resolve tree with
  | (.error error, records) => .failed error [] records tree
  | (.ok settings, records) =>
    let opening := openingNotices settings isDryRun isVerbose
    let outcome := Generation.run Engine.placeholder () settings isDryRun tree
    match outcome.result with
    | .error cause =>
      .failed (.generation cause) (opening ++ [.failed]) (records ++ outcome.records) outcome.tree
    | .ok report =>
      .succeeded (opening ++ closingNotices report) (records ++ outcome.records) outcome.tree

/-- Compare a file with the artifact of settings, and tell what is wrong with it. -/
def compareArtifact (settings : Settings) (artifact : Artifact) (tree : FileTree) :
    Except CommandError Unit × List Notice :=
  match tree.read settings.output with
  | .error .noEntry =>
    (.error (.artifactMissing settings.output), [.missing settings.output])
  | .error cause => (.error (.artifactUnreadable settings.output cause), [])
  | .ok content =>
    if content = artifact.bytes then
      (.ok (), [.upToDate settings.output settings.minArity settings.maxArity])
    else (.error (.artifactStale settings.output), [.outOfDate settings.output])

/-- Check whether the artifact is what would be generated. -/
def runCheck (options : GeneratorOptions) (tree : FileTree) : Transcript :=
  match options.resolve tree with
  | (.error error, records) => .failed error [] records tree
  | (.ok settings, records) =>
    match (Artifact.build Engine.placeholder settings).run' () with
    | .error cause => .failed (.generation cause) [] records tree
    | .ok artifact =>
      let records := records ++ Generation.buildRecords settings artifact
      match compareArtifact settings artifact tree with
      | (.error error, notices) => .failed error notices records tree
      | (.ok (), notices) => .succeeded notices records tree

/-- The listing of the plans of an arity. -/
def listPlans (arity : Nat) (plans : List Plan) : ListingFormat → String
  | .text => Listing.text arity plans
  | .json => (Json.array (plans.map Plan.toJson)).pretty

/-- The plans of an arity that are listed, once their keys have been checked. -/
def plansFor (arity : Nat) : Except CommandError (List Plan) := do
  if Settings.maxSupportedArity < arity then throw (.arityTooLarge arity)
  let enumeration ← (Enumeration.ofArity arity).mapError fun cause => .generation (.defect cause)
  let plans := enumeration.toList.map Plan.ofPartition
  (Registry.check plans).mapError .generation
  return plans

/-- List the plans of an arity. -/
def runPlan (arity : Nat) (format : ListingFormat) (tree : FileTree) : Transcript :=
  match plansFor arity with
  | .error error => .failed error [] [] tree
  | .ok plans =>
    .printed (.text (listPlans arity plans format ++ "\n")) [.keysUnique plans.length] tree

/-- Run a command. -/
def run (tree : FileTree) : Command → Transcript
  | .generate options isDryRun isVerbose _ => runGenerate options isDryRun isVerbose tree
  | .check options _ => runCheck options tree
  | .plan arity format => runPlan arity format tree
  | .completions shell => .printed (.completionScript shell) [] tree

end FactoryOverloads.CommandLine
