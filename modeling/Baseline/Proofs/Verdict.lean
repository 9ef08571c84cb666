import Baseline.Verdict

/-!
# What verdicts count

A report that is taken over puts its counts into the verdict, and every mismatch counts
once, as expected or as a regression (`recordRun_eq`).  So every source of the report is
counted once, if no mismatch was counted before (`balanced_recordRun_iff`).
-/

namespace Baseline

namespace Report

/-- Each mismatch of a report is either expected or a regression. -/
theorem length_mismatchedPaths (report : Report) (expected : Expected) :
    report.mismatchedPaths.length =
      report.mismatchedPaths.countP (expected.classify · ≠ .regression) +
        report.mismatchedPaths.countP (expected.classify · = .regression) := by
  have split := List.length_eq_countP_add_countP
    (expected.classify · = .regression) (l := report.mismatchedPaths)
  simp only [decide_eq_true_eq] at split
  rw [split, Nat.add_comm]

theorem mismatched_eq_length (report : Report) :
    report.mismatched = report.mismatchedPaths.length := by
  rw [mismatched, List.countP_eq_length_filter, mismatchedPaths, List.length_map]

end Report

namespace Verdict

/-- Every source that was compared is counted once. -/
def Balanced (verdict : Verdict) : Prop :=
  verdict.examined = verdict.passed + verdict.created + verdict.skipped +
    verdict.expectedMismatches + verdict.regressions

instance (verdict : Verdict) : Decidable verdict.Balanced :=
  inferInstanceAs (Decidable (_ = _))

/-- No mismatch has been counted. -/
def Unmismatched (verdict : Verdict) : Prop :=
  verdict.expectedMismatches = 0 ∧ verdict.regressions = 0

variable (verdict : Verdict)

/-- Mismatches change their two counts only, and each of them is counted once. -/
theorem foldl_recordMismatch (states : List MismatchState) :
    states.foldl recordMismatch verdict =
      { verdict with
        expectedMismatches := verdict.expectedMismatches + states.countP (· ≠ .regression)
        regressions := verdict.regressions + states.countP (· = .regression) } := by
  induction states generalizing verdict with
  | nil => rfl
  | cons state rest inductionHypothesis =>
      rw [List.foldl_cons, inductionHypothesis, List.countP_cons, List.countP_cons]
      cases state <;> simp [recordMismatch] <;> omega

/-- A report is taken over as a whole. -/
theorem recordRun_eq (report : Report) (expected : Expected) :
    verdict.recordRun report expected =
      { verdict with
        examined := report.examined
        passed := report.passed
        created := report.created
        skipped := report.skipped
        expectedMismatches := verdict.expectedMismatches +
          report.mismatchedPaths.countP (expected.classify · ≠ .regression)
        regressions := verdict.regressions +
          report.mismatchedPaths.countP (expected.classify · = .regression) } := by
  rw [recordRun, foldl_recordMismatch, List.countP_map, List.countP_map]
  rfl

/-- Mismatches do not end a run early. -/
theorem recordRun_fatal (report : Report) (expected : Expected) :
    (verdict.recordRun report expected).fatal = verdict.fatal := by
  rw [recordRun_eq]

/-- The sources of a report are counted once exactly if no mismatch was counted before. -/
theorem balanced_recordRun_iff {report : Report} {expected : Expected} :
    (verdict.recordRun report expected).Balanced ↔ verdict.Unmismatched := by
  have total := report.examined_eq
  have mismatches := report.length_mismatchedPaths expected
  rw [← report.mismatched_eq_length] at mismatches
  rw [recordRun_eq, Balanced, Unmismatched]
  dsimp only
  omega

end Verdict
end Baseline
