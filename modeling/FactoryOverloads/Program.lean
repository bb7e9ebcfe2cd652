import FactoryOverloads.CommandLine.Parse
import FactoryOverloads.CommandLine.Run
import FactoryOverloads.Log.Filter

/-!
# The program

A run of the program takes arguments, environment variables and a file tree, and leaves an exit
code, what it wrote to standard output and to standard error, and the tree.

The texts of the manual, the completion scripts and the patterns of log filters are not the
program's own. They come from libraries (`Program.Library`), and a run takes them as it is given
them.
-/

namespace FactoryOverloads.Program

open CommandLine (Halt Invocation Print Transcript)

/-- What a run of the program leaves. -/
structure Result where
  exitCode : Nat
  output : String
  errors : String
  tree : FileTree

/-- What the program leaves to libraries. -/
structure Library where
  /-- The answer to arguments that ask for help. -/
  help (arguments : List String) : String
  /-- The complaint about arguments that are no request. -/
  usage (arguments : List String) : String
  /-- The completion script for a shell. -/
  completionScript (shell : CommandLine.Shell) : String
  /-- How the texts of log records are searched. -/
  search : Search

/-- The library without texts, in which patterns stand for themselves. -/
def Library.plain : Library where
  help _ := ""
  usage _ := ""
  completionScript _ := ""
  search := .literal

/-- The version of the program. -/
def version : String := "genmakeimpl 0.1.0\n"

/-- What arguments without a request leave. -/
def halted (library : Library) (arguments : List String) (tree : FileTree) : Halt → Result
  | .help => ⟨Halt.help.exitCode, library.help arguments, "", tree⟩
  | .version => ⟨Halt.version.exitCode, version, "", tree⟩
  | .usage => ⟨Halt.usage.exitCode, "", library.usage arguments, tree⟩

/-- The log of a run: complaints about its specification, and the records that are shown. -/
def logText (library : Library) (environment : Environment) (invocation : Invocation)
    (records : List Record) : String :=
  let (filter, complaints) := Filter.parse library.search invocation.logSpecification
  String.join
    (complaints.map (fun complaint => "warning: " ++ complaint ++ ", ignoring it\n") ++
      (records.filter filter.shows).map fun record =>
        record.line environment.stylesRecords ++ "\n")

/-- The text that a command prints besides its notices. -/
def printText (library : Library) : Print → String
  | .nothing => ""
  | .text text => text
  | .completionScript shell => library.completionScript shell

/-- What a request leaves when it has been run. -/
def present (library : Library) (environment : Environment) (invocation : Invocation)
    (elapsed : String) (transcript : Transcript) : Result where
  exitCode := transcript.exitCode
  output :=
    let console :=
      (Console.ofWish invocation.color environment).withQuiet invocation.command.isQuiet
    console.output environment.stylesLines elapsed transcript.notices ++
      printText library transcript.print
  errors :=
    logText library environment invocation transcript.records ++
      ((transcript.error.map CommandLine.CommandError.report).getD "")
  tree := transcript.tree

/-- Run the program. `elapsed` is how many seconds the run takes, as a text. -/
def run (environment : Environment) (arguments : List String) (elapsed : String)
    (tree : FileTree) (library : Library := .plain) : Result :=
  match CommandLine.parse environment arguments with
  | .error halt => halted library arguments tree halt
  | .ok invocation =>
    present library environment invocation elapsed (CommandLine.run tree invocation.command)

end FactoryOverloads.Program
