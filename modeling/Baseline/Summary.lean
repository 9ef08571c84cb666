import Baseline.Expected
import Baseline.Outcome
import Baseline.Unicode.Width

/-!
# Record lines and summaries

One line tells what became of a source.  The summary of a report counts the
outcomes and lists the mismatches in a table, with the states aligned below each
other.
-/

namespace Baseline

/-- The record in one line. -/
def FileRecord.line (record : FileRecord) : String :=
  match record.outcome with
  | .passed => s!"PASS {record.path}"
  | .mismatched actual => s!"MISMATCH {record.path}, see {actual}"
  | .created reference => s!"NEW baseline {reference} for {record.path}"
  | .skipped => s!"SKIP {record.path} (empty or unreadable)"

namespace Expected

/-- How a mismatch counts, in words, with the reason of its entry. -/
def describe (expected : Expected) (path : String) : String :=
  let withReason (label : String) : String :=
    match (expected.entry? path).bind MismatchEntry.reason with
    | some reason => s!"{label} ({reason})"
    | none => label
  match expected.classify path with
  | .known => withReason "known"
  | .pending => withReason "pending"
  | .regression => "regression"

end Expected

namespace Report

/-- The line that counts the outcomes. -/
def countLine (report : Report) : String :=
  s!"Examined {report.examined} files: {report.passed} passed, " ++
    s!"{report.mismatched} mismatched, {report.created} created, {report.skipped} skipped"

/-- The width of the widest path of the table. -/
def tableWidth (paths : List String) : Nat :=
  (paths.map Unicode.width).foldl max 0

/-- The row of a mismatch in a table of the given width. -/
def row (expected : Expected) (width : Nat) (path : String) : String :=
  let padding := String.ofList (List.replicate (width - Unicode.width path) ' ')
  s!"  {path}{padding}  {expected.describe path}"

/-- The line that counts expected mismatches and regressions. -/
def statusLine (expectedCount regressions : Nat) : String :=
  let status := if 0 < regressions then "FAIL" else "PASS"
  s!"{status}: {expectedCount} expected, {regressions} regressions"

/-- The texts that the summary ends with line feeds. -/
def summaryLines (report : Report) (expected : Expected) : List String :=
  let paths := report.mismatchedPaths
  if paths.isEmpty then [report.countLine]
  else
    let regressions := paths.countP fun path => expected.classify path = .regression
    [report.countLine, ""] ++ paths.map (row expected (tableWidth paths)) ++
      ["", statusLine (paths.length - regressions) regressions]

/-- The summary of a report. -/
def summary (report : Report) (expected : Expected) : String :=
  String.join ((report.summaryLines expected).map (· ++ "\n"))

end Report
end Baseline
