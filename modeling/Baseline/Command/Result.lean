import Baseline.Command.Arguments
import Baseline.Loading
import Baseline.Suite

/-!
# The command

The command loads its settings, makes a run of the parser for token trees and
ends with the exit code of the verdict.  Paths in a settings file are meant from
the directory around that file; paths in the arguments are meant as they are.
-/

namespace Baseline

/-- What a command leaves behind, files apart. -/
structure CommandResult where
  /-- The lines printed. -/
  output : List String := []
  /-- The lines printed for diagnosis. -/
  diagnostics : List String := []
  /-- The exit code. -/
  exitCode : Nat
  deriving DecidableEq, Repr

namespace Command

/-- The name of the command. -/
def name : String := "syntax-golden"

/-- The line that tells the version. -/
def versionLine : String := s!"{name} 0.1.0"

/-- How the command is used. -/
def usageLine : String := s!"Usage: {name} [OPTIONS] [ROOT]"

/-- The lines that explain the command. -/
def helpLines : List String :=
  ["Snapshot-test a parser against recorded baselines",
   "",
   usageLine,
   "",
   "Arguments:",
   "  [ROOT]  Directory or single file to scan, overriding `root` from the config",
   "",
   "Options:",
   "  -c, --config <CONFIG>  Path to the configuration file " ++
     s!"[default: {Invocation.defaultSettingsFile}]",
   "      --ext <EXT>        Source file extension, without the dot",
   "      --skip-smoke       Do not run the capability smoke checks",
   "  -v, --verbose...       More log output on stderr (-v info, -vv debug, -vvv trace)",
   "  -h, --help             Print help",
   "  -V, --version          Print version"]

/-- The exit code of a command that could not make its run. -/
def failureCode : Nat := 2

/-- The result of a command that makes no run. -/
def stopped : Stop → CommandResult
  | .help => { output := helpLines, exitCode := 0 }
  | .version => { output := [versionLine], exitCode := 0 }
  | .misuse error =>
      { diagnostics := [error.message, "", usageLine, "",
          "For more information, try '--help'."]
        exitCode := failureCode }

variable {σ : Type} [FileAccess σ]

/-- The settings of the run: those of the settings file, changed as the arguments
say. -/
def settings (system : σ) (invocation : Invocation) : Except RunError Settings := do
  let loaded ← Settings.load system invocation.settingsFile
  return { loaded with
    root := invocation.root?.getD (Path.beside invocation.settingsFile loaded.root)
    extensions.source := invocation.extension?.getD loaded.extensions.source }

/-- The path of the list of expected mismatches. -/
def expectedFile? (invocation : Invocation) (settings : Settings) : Option String :=
  settings.expectedFailures.map (Path.beside invocation.settingsFile)

/-- The run that the arguments ask for. -/
def suite (system : σ) (invocation : Invocation) : Except RunError Suite := do
  let settings ← settings system invocation
  let expected ← match expectedFile? invocation settings with
    | some path => Expected.load system path
    | none => .ok {}
  return {
    name, settings, expected
    skipSmoke := invocation.skipSmoke
    parser := Parser.tokenTrees {} }

/-- Make the run that the arguments ask for. -/
def run (invocation : Invocation) : StateM σ CommandResult := do
  match suite (← get) invocation with
  | .error error => return { output := Transcript.fatal error, exitCode := failureCode }
  | .ok suite =>
      let result ← suite.run
      return { output := result.lines, exitCode := result.verdict.exitCode }

/-- What the command does with its arguments. -/
def execute (arguments : List String) : StateM σ CommandResult :=
  match Invocation.ofArguments arguments with
  | .error stop => return stopped stop
  | .ok invocation => run invocation

end Command
end Baseline
