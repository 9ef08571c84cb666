import Baseline.Proofs.Expected.FirstEntry
import Baseline.Proofs.Text.EndedLines
import Baseline.Proofs.Verdict
import Baseline.Summary

/-!
# What summaries tell

A summary tells each mismatch in a row of its table, by the first entry that names the source
(`Expected.tells_describe`), and its last line has the counts that a verdict takes over from
the report.  So summaries and verdicts classify mismatches alike
(`Report.summary_and_verdict_agree`).
-/

namespace Baseline

namespace Expected

/-- A label, with a reason in brackets if there is one. -/
def labelled (label : String) : Option String → String
  | none => label
  | some reason => label ++ " (" ++ reason ++ ")"

/-- The words for a mismatch of the source at a path: how it counts, and the reason that the
first entry for it gives. -/
inductive Tells (expected : Expected) (path : String) : String → Prop
  /-- The first entry that names the source is a known one. -/
  | known {index : Nat} {entry : MismatchEntry}
      (first : expected.IsFirst path index entry)
      (listed : index < expected.known.length) :
      Tells expected path (labelled "known" entry.reason)
  /-- The first entry that names the source is a pending one. -/
  | pending {index : Nat} {entry : MismatchEntry}
      (first : expected.IsFirst path index entry)
      (listed : expected.known.length ≤ index) :
      Tells expected path (labelled "pending" entry.reason)
  /-- No entry names the source. -/
  | regression
      (unnamed : ∀ entry ∈ expected.known ++ expected.pending,
        ¬names expected.root path entry) :
      Tells expected path "regression"

/-- A row of a table whose paths have a width: the path, blanks up to that width, and the words
for the mismatch. -/
def IsRow (expected : Expected) (width : Nat) (path row : String) : Prop :=
  ∃ blanks words, Unicode.width path + blanks = width ∧ expected.Tells path words ∧
    row = "  " ++ path ++ String.ofList (List.replicate blanks ' ') ++ "  " ++ words

/-- How a mismatch of the source at a path counts, and the entry found for it, depend on the first
entry that names the source. -/
structure CountsByFirst (expected : Expected) (path : String) : Prop where
  /-- Without an entry it is a regression. -/
  regression_iff : expected.classify path = .regression ↔ expected.entry? path = none
  /-- With an entry it is known or pending, as the list says in which the entry stands. -/
  listed : ∀ entry, expected.entry? path = some entry →
    ∃ index, expected.IsFirst path index entry ∧
      (expected.classify path = .known ↔ index < expected.known.length) ∧
        (expected.classify path = .pending ↔ expected.known.length ≤ index)

variable
  {expected : Expected}
  {path words : String}

theorem countsByFirst (expected : Expected) (path : String) : expected.CountsByFirst path where
  regression_iff := classify_eq_regression_iff
  listed entry found := by
    obtain ⟨index, first⟩ := entry?_eq_some_iff.mp found
    exact ⟨index, first, first.classify_eq_known_iff, first.classify_eq_pending_iff⟩

/-- What is told of a mismatch follows from the first entry for it. -/
theorem tells_describe (expected : Expected) (path : String) :
    expected.Tells path (expected.describe path) := by
  cases found : expected.entry? path with
  | none =>
      rw [describe, classify_eq_regression_iff.mpr found]
      exact .regression (entry?_eq_none_iff.mp found)
  | some entry =>
      obtain ⟨index, first⟩ := entry?_eq_some_iff.mp found
      by_cases listed : index < expected.known.length
      · have told : expected.describe path = labelled "known" entry.reason := by
          simp only [describe, first.classify_eq_known_iff.mpr listed, found, Option.bind_some]
          cases entry.reason <;> rfl
        rw [told]
        exact .known first listed
      · have later := Nat.le_of_not_lt listed
        have told : expected.describe path = labelled "pending" entry.reason := by
          simp only [describe, first.classify_eq_pending_iff.mpr later, found, Option.bind_some]
          cases entry.reason <;> rfl
        rw [told]
        exact .pending first later

theorem isLine_labelled
    {label : String}
    {reason : Option String}
    (labelLine : Text.IsLine label)
    (reasonLine : ∀ text ∈ reason, Text.IsLine text) :
    Text.IsLine (labelled label reason) := by
  cases reason with
  | none => exact labelLine
  | some text =>
      exact ((labelLine.append (by decide)).append (reasonLine text rfl)).append (by decide)

/-- The words for a mismatch fit on a line if the reasons do. -/
theorem Tells.isLine
    (tells : expected.Tells path words)
    (reasons : ∀ entry ∈ expected.known ++ expected.pending, ∀ reason ∈ entry.reason,
      Text.IsLine reason) :
    Text.IsLine words := by
  cases tells with
  | known first =>
      exact isLine_labelled (by decide) (reasons _ (List.mem_of_getElem? first.found))
  | pending first =>
      exact isLine_labelled (by decide) (reasons _ (List.mem_of_getElem? first.found))
  | regression => decide

theorem IsRow.isLine
    {width : Nat}
    {row : String}
    (isRow : expected.IsRow width path row)
    (pathLine : Text.IsLine path)
    (reasons : ∀ entry ∈ expected.known ++ expected.pending, ∀ reason ∈ entry.reason,
      Text.IsLine reason) :
    Text.IsLine row := by
  obtain ⟨blanks, words, _, tells, rfl⟩ := isRow
  have blankLine : Text.IsLine (String.ofList (List.replicate blanks ' ')) := by
    intro char member
    rw [String.toList_ofList] at member
    rw [List.eq_of_mem_replicate member]
    rfl
  have front : Text.IsLine ("  " ++ path) := Text.IsLine.append (by decide) pathLine
  exact ((front.append blankLine).append (by decide)).append (tells.isLine reasons)

end Expected

namespace Report

/-- The line starts with the word for success or for failure. -/
def IsStatus (line : String) : Prop :=
  "PASS".toList <+: line.toList ∨ "FAIL".toList <+: line.toList

/-- The line that tells the mismatches of a verdict: a failure if there are regressions, a success
otherwise. -/
def statusOf (verdict : Verdict) : String :=
  (if 0 < verdict.regressions then "FAIL" else "PASS") ++ ": " ++
    toString verdict.expectedMismatches ++ " expected, " ++
      toString verdict.regressions ++ " regressions"

/-- The lines tell the mismatches of a report as a verdict counts them. -/
structure IsToldBy
    (report : Report)
    (expected : Expected)
    (verdict : Verdict)
    (lines : List String) : Prop where
  /-- Without a mismatch there is one line. -/
  unmismatched : report.mismatchedPaths = [] → lines = [report.countLine]
  /-- Otherwise each mismatch has a row, in the order of the report, and a status is last. -/
  table : report.mismatchedPaths ≠ [] →
    ∃ width rows, lines = [report.countLine, ""] ++ rows ++ ["", statusOf verdict] ∧
      List.Forall₂ (expected.IsRow width) report.mismatchedPaths rows
  /-- There is no other status, and none without a mismatch. -/
  status_iff : ∀ line ∈ lines,
    IsStatus line ↔ report.mismatchedPaths ≠ [] ∧ line = statusOf verdict

variable
  {report : Report}
  {expected : Expected}
  {paths : List String}
  {path : String}

theorem width_le_tableWidth (member : path ∈ paths) : Unicode.width path ≤ tableWidth paths := by
  rw [tableWidth, List.foldl_max]
  have widest := List.le_max?_getD_of_mem (k := 0) (List.mem_map_of_mem (f := Unicode.width) member)
  exact widest.trans (Nat.le_max_right _ _)

/-- Each mismatch has its row. -/
theorem isRow_row (expected : Expected) (member : path ∈ paths) :
    expected.IsRow (tableWidth paths) path (row expected (tableWidth paths) path) := by
  refine ⟨tableWidth paths - Unicode.width path, expected.describe path, ?_,
    expected.tells_describe path, rfl⟩
  exact Nat.add_sub_cancel' (width_le_tableWidth member)

theorem forall₂_row (expected : Expected) (paths : List String) :
    List.Forall₂ (expected.IsRow (tableWidth paths)) paths
      (paths.map (row expected (tableWidth paths))) := by
  rw [List.forall₂_map_right_iff, List.forall₂_same]
  exact fun path member => isRow_row expected member

theorem isLine_countLine (report : Report) : Text.IsLine report.countLine := by
  simp only [countLine, Text.isLine_append, Text.isLine_toString, and_true, true_and]
  decide

theorem isLine_statusLine (expectedCount regressions : Nat) :
    Text.IsLine (statusLine expectedCount regressions) := by
  have wordLine : Text.IsLine (if 0 < regressions then "FAIL" else "PASS") := by
    split <;> decide
  simp only [statusLine, Text.isLine_append, Text.isLine_toString, and_true]
  exact ⟨⟨⟨wordLine, by decide⟩, by decide⟩, by decide⟩

theorem summaryLines_of_nil (none : report.mismatchedPaths = []) :
    report.summaryLines expected = [report.countLine] := by
  rw [summaryLines, none]
  rfl

/-- The last line of a summary has the counts of a verdict. -/
theorem summaryLines_of_ne_nil (some : report.mismatchedPaths ≠ []) :
    report.summaryLines expected =
      [report.countLine, ""] ++
        report.mismatchedPaths.map (row expected (tableWidth report.mismatchedPaths)) ++
          ["", statusLine (Verdict.recordRun {} report expected).expectedMismatches
            (Verdict.recordRun {} report expected).regressions] := by
  have nonempty : ¬report.mismatchedPaths.isEmpty = true := by
    rwa [List.isEmpty_iff]
  -- A summary counts the regressions, and the other mismatches as the difference.
  have mismatches := report.length_mismatchedPaths expected
  rw [Verdict.recordRun_eq, Nat.zero_add, Nat.zero_add, summaryLines, if_neg nonempty, mismatches]
  dsimp only
  rw [Nat.add_sub_cancel]

theorem isLine_of_mem_summaryLines
    {line : String}
    (pathLines : ∀ path ∈ report.mismatchedPaths, Text.IsLine path)
    (reasonLines : ∀ entry ∈ expected.known ++ expected.pending, ∀ reason ∈ entry.reason,
      Text.IsLine reason)
    (member : line ∈ report.summaryLines expected) :
    Text.IsLine line := by
  by_cases none : report.mismatchedPaths = []
  · rw [summaryLines_of_nil none, List.mem_singleton] at member
    exact member ▸ report.isLine_countLine
  · rw [summaryLines_of_ne_nil none] at member
    simp only [List.mem_append, List.mem_cons, List.not_mem_nil, or_false, List.mem_map] at member
    rcases member with ((rfl | rfl) | ⟨path, inPaths, rfl⟩) | rfl | rfl
    · exact report.isLine_countLine
    · decide
    · exact (isRow_row expected inPaths).isLine (pathLines path inPaths) reasonLines
    · decide
    · exact isLine_statusLine _ _

/-- Without line breaks in paths and reasons, the lines of a summary are the texts it is put
together from. -/
theorem lines_summary
    (pathLines : ∀ path ∈ report.mismatchedPaths, Text.IsLine path)
    (reasonLines : ∀ entry ∈ expected.known ++ expected.pending, ∀ reason ∈ entry.reason,
      Text.IsLine reason) :
    Text.lines (report.summary expected) = report.summaryLines expected :=
  Text.lines_join fun _ => isLine_of_mem_summaryLines pathLines reasonLines

theorem isStatus_statusLine (expectedCount regressions : Nat) :
    IsStatus (statusLine expectedCount regressions) := by
  simp only [IsStatus, statusLine, String.toList_append, List.append_assoc]
  split
  · exact .inr (List.prefix_append _ _)
  · exact .inl (List.prefix_append _ _)

theorem not_isStatus_countLine (report : Report) : ¬IsStatus report.countLine := by
  simp only [IsStatus, countLine, String.toList_append, List.append_assoc]
  rintro (passes | fails)
  · cases (List.cons_prefix_cons.mp passes).1
  · cases (List.cons_prefix_cons.mp fails).1

theorem not_isStatus_row (expected : Expected) (width : Nat) (path : String) :
    ¬IsStatus (row expected width path) := by
  simp only [IsStatus, row, String.toList_append, List.append_assoc]
  rintro (passes | fails)
  · cases (List.cons_prefix_cons.mp passes).1
  · cases (List.cons_prefix_cons.mp fails).1

/-- Of the lines of a summary only the last one is a status, and only if there is a mismatch. -/
theorem isStatus_iff_of_mem_summaryLines
    {line : String}
    (member : line ∈ report.summaryLines expected) :
    IsStatus line ↔
      report.mismatchedPaths ≠ [] ∧
        line = statusLine (Verdict.recordRun {} report expected).expectedMismatches
          (Verdict.recordRun {} report expected).regressions := by
  by_cases none : report.mismatchedPaths = []
  · rw [summaryLines_of_nil none, List.mem_singleton] at member
    rw [member]
    exact iff_of_false report.not_isStatus_countLine fun both => both.1 none
  · have emptyIsNone : ¬IsStatus "" := by
      simp [IsStatus]
    rw [summaryLines_of_ne_nil none] at member
    refine ⟨fun isStatus => ⟨none, ?_⟩, fun both => both.2 ▸ isStatus_statusLine _ _⟩
    simp only [List.mem_append, List.mem_cons, List.not_mem_nil, or_false, List.mem_map] at member
    rcases member with ((rfl | rfl) | ⟨path, inPaths, rfl⟩) | rfl | rfl
    · exact absurd isStatus report.not_isStatus_countLine
    · exact absurd isStatus emptyIsNone
    · exact absurd isStatus (not_isStatus_row expected _ path)
    · exact absurd isStatus emptyIsNone
    · rfl

/-- A summary has one row for each mismatch, in the order of the report, and after them a line
with the counts that a fresh verdict takes over from the report: a failure if there are
regressions, a success otherwise.  Without a mismatch it has no such line.  Every path is
classified by the first entry that names it, known ones before pending ones, which is the entry
whose reason its row gives. -/
theorem summary_and_verdict_agree
    (report : Report)
    (expected : Expected)
    (pathLines : ∀ path ∈ report.mismatchedPaths, Text.IsLine path)
    (reasonLines : ∀ entry ∈ expected.known ++ expected.pending, ∀ reason ∈ entry.reason,
      Text.IsLine reason) :
    report.IsToldBy expected (Verdict.recordRun {} report expected)
        (Text.lines (report.summary expected)) ∧
      ∀ path, expected.CountsByFirst path := by
  rw [lines_summary pathLines reasonLines]
  refine ⟨⟨summaryLines_of_nil, fun some => ?_, fun line => isStatus_iff_of_mem_summaryLines⟩, ?_⟩
  · exact ⟨_, _, summaryLines_of_ne_nil some, forall₂_row expected _⟩
  · exact expected.countsByFirst

/-- A source that a known entry and, in another spelling, a pending one name is known, and its row
gives the reason of the known one; wide characters count twice. -/
theorem summary_and_verdict_agree_on_shared_source :
    let report : Report :=
      ⟨[⟨"t/a.js", .mismatched "t/a.actual"⟩, ⟨"t/b.js", .passed⟩,
        ⟨"t/数字.js", .mismatched "t/数字.actual"⟩]⟩
    let expected : Expected :=
      { known := [{ source := ".\\t\\a.js", reason := some "octal" }]
        pending := [{ source := "a.js", reason := some "later" }]
        root := some "t" }
    (∀ path ∈ report.mismatchedPaths, Text.IsLine path) ∧
      (∀ entry ∈ expected.known ++ expected.pending, ∀ reason ∈ entry.reason,
        Text.IsLine reason) ∧
      Text.lines (report.summary expected) =
        ["Examined 3 files: 1 passed, 2 mismatched, 0 created, 0 skipped", "",
          "  t/a.js     known (octal)", "  t/数字.js  regression", "",
          "FAIL: 1 expected, 1 regressions"] ∧
      report.IsToldBy expected (Verdict.recordRun {} report expected)
        (Text.lines (report.summary expected)) ∧
      ∀ path, expected.CountsByFirst path := by
  intro report expected
  have pathLines : ∀ path ∈ report.mismatchedPaths, Text.IsLine path := by decide +kernel
  have reasonLines : ∀ entry ∈ expected.known ++ expected.pending, ∀ reason ∈ entry.reason,
      Text.IsLine reason := by decide +kernel
  exact ⟨pathLines, reasonLines, by decide +kernel,
    summary_and_verdict_agree report expected pathLines reasonLines⟩

end Report
end Baseline
