import Baseline.RunError
import Baseline.Smoke
import Baseline.Summary
import Baseline.Text.LineBreaks

/-!
# Transcripts

What a run prints, line by line.
-/

namespace Baseline
namespace Transcript

/-- The line that opens a run. -/
def banner (name : String) : List String :=
  [s!"Running unit tests for {name}..."]

/-- The result of the smoke suite: the failure and what passed before it, if a
check failed, and the number of checks. -/
def smoke (outcome : SmokeOutcome) : List String :=
  match outcome.failure with
  | none => [s!"No failure. Total tests: {outcome.total} tests."]
  | some failure =>
      failure.message :: failure.trace.map (s!"  passed: {·}") ++
        [s!"Total tests: {outcome.total} tests."]

/-- The record of one source. -/
def record (record : FileRecord) : List String :=
  [record.line]

/-- The summary of a report, cut into lines. -/
def summary (report : Report) (expected : Expected) : List String :=
  Text.lines (report.summary expected)

/-- The error that ended a run early. -/
def fatal (error : RunError) : List String :=
  [s!"ABORTED: {error.message}"]

end Transcript
end Baseline
