import Baseline.Expected
import Baseline.Outcome
import Baseline.Smoke

/-!
# Verdicts

The result of a whole run in numbers, and the exit code that follows from it.
-/

namespace Baseline

/-- The result of a run. -/
structure Verdict where
  /-- The number of smoke checks. -/
  smokeAssertions : Nat := 0
  /-- A smoke check failed. -/
  smokeFailed : Bool := false
  /-- The number of sources compared. -/
  examined : Nat := 0
  /-- The number of sources that passed. -/
  passed : Nat := 0
  /-- The number of sources that got a new reference. -/
  created : Nat := 0
  /-- The number of sources skipped. -/
  skipped : Nat := 0
  /-- The number of mismatches that were expected. -/
  expectedMismatches : Nat := 0
  /-- The number of mismatches that nobody expected. -/
  regressions : Nat := 0
  /-- The run ended early. -/
  fatal : Bool := false
  deriving DecidableEq, Repr

namespace Verdict

/-- Two for a run that ended early, one for a failed smoke check or a
regression, else zero. -/
def exitCode (verdict : Verdict) : Nat :=
  if verdict.fatal then 2
  else if verdict.smokeFailed ∨ 0 < verdict.regressions then 1
  else 0

/-- The run found nothing wrong. -/
def success (verdict : Verdict) : Bool :=
  verdict.exitCode = 0

/-- Take over the result of the smoke suite. -/
def recordSmoke (verdict : Verdict) (outcome : SmokeOutcome) : Verdict :=
  { verdict with smokeAssertions := outcome.total, smokeFailed := !outcome.passed }

/-- Count one mismatch. -/
def recordMismatch (verdict : Verdict) (state : MismatchState) : Verdict :=
  match state with
  | .known | .pending => { verdict with expectedMismatches := verdict.expectedMismatches + 1 }
  | .regression => { verdict with regressions := verdict.regressions + 1 }

/-- Take over the counts of a report and add its mismatches. -/
def recordRun (verdict : Verdict) (report : Report) (expected : Expected) : Verdict :=
  (report.mismatchedPaths.map expected.classify).foldl recordMismatch
    { verdict with
      examined := report.examined
      passed := report.passed
      created := report.created
      skipped := report.skipped }

/-- Note that the run ended early. -/
def recordFatal (verdict : Verdict) : Verdict :=
  { verdict with fatal := true }

end Verdict
end Baseline
