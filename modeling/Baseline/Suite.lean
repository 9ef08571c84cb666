import Baseline.Compare
import Baseline.Scan
import Baseline.Transcript
import Baseline.Verdict

/-!
# Whole runs

A run opens with a banner and the smoke suite, scans for sources, compares them
one after the other and ends with a summary, or with the error that ended it
early.  It gives the lines it prints and a verdict.
-/

namespace Baseline

/-- A run to be made. -/
structure Suite where
  /-- The name in the banner. -/
  name : String := "syntax-golden"
  /-- The settings. -/
  settings : Settings := {}
  /-- The mismatches that are expected. -/
  expected : Expected := {}
  /-- The smoke suite is left out. -/
  skipSmoke : Bool := false
  /-- The parser under test. -/
  parser : Parser
  /-- What the process shows. -/
  process : Surface := Surface.process

/-- What a run gives. -/
structure SuiteResult where
  /-- The lines printed. -/
  lines : List String
  /-- The result in numbers. -/
  verdict : Verdict

namespace Suite

variable {σ : Type} [FileAccess σ]

/-- Scan for sources and compare them. -/
def compare (suite : Suite) : StateM σ Compare.Progress := do
  let options := suite.settings.compareOptions
  match Compare.checkExtensions options.extensions with
  | .error error => return ⟨[], some error⟩
  | .ok () =>
      match scan (← get) suite.settings.scanOptions suite.settings.root with
      | .error error => return ⟨[], some error⟩
      | .ok paths => Compare.compareAll suite.parser options paths

/-- The outcome of the smoke suite, unless it is left out. -/
def smoke (suite : Suite) (system : σ) : Option SmokeOutcome :=
  if suite.skipSmoke then none
  else some (Smoke.run (FileAccess.surface system) suite.process suite.parser.surface)

/-- The lines after the records, and the verdict. -/
def conclude (suite : Suite) (verdict : Verdict) (progress : Compare.Progress) : SuiteResult :=
  let expected := suite.expected.withDefaultRoot suite.settings.root
  match progress.report with
  | .ok report => ⟨Transcript.summary report expected, verdict.recordRun report expected⟩
  | .error error => ⟨Transcript.fatal error, verdict.recordFatal⟩

/-- Make the run. -/
def run (suite : Suite) : StateM σ SuiteResult := do
  let smoke := suite.smoke (← get)
  let verdict := smoke.elim {} (Verdict.recordSmoke {})
  let progress ← suite.compare
  let conclusion := suite.conclude verdict progress
  let opening := Transcript.banner suite.name ++ smoke.elim [] Transcript.smoke
  let records := progress.records.flatMap Transcript.record
  return { conclusion with lines := opening ++ records ++ conclusion.lines }

end Suite
end Baseline
