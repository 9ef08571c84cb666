import Baseline.Proofs.Verdict
import Mathlib.Data.List.Induction

/-!
# Verdicts over many events

A verdict can take over results more than once.  The counts of a report replace those of the
report before it, and its mismatches are added to those counted so far; so the counts balance if
only the last report has mismatches (`balanced_ofEvents_iff`).  The exit code rises with
regressions and with an early end; it falls only when a smoke suite passes after one that failed,
and only if nothing else is wrong (`exitCode_take_lt_iff`).
-/

namespace Baseline
namespace Verdict

/-- Something that a verdict takes over. -/
inductive Event
  /-- The result of a smoke suite. -/
  | smoke (outcome : SmokeOutcome)
  /-- The report of a run, and the mismatches that were expected of it. -/
  | run (report : Report) (expected : Expected)
  /-- The early end of a run. -/
  | fatal

/-- The report of a run. -/
def Event.report? : Event → Option Report
  | .smoke _ => none
  | .run report _ => some report
  | .fatal => none

/-- The verdict after one more event. -/
def take (verdict : Verdict) : Event → Verdict
  | .smoke outcome => verdict.recordSmoke outcome
  | .run report expected => verdict.recordRun report expected
  | .fatal => verdict.recordFatal

/-- What becomes of a fresh verdict. -/
def ofEvents (events : List Event) : Verdict :=
  events.foldl take {}

/-- The reports among some events, in order. -/
def reports (events : List Event) : List Report :=
  events.filterMap Event.report?

variable
  (verdict : Verdict)
  {events : List Event}
  {report : Report}
  {expected : Expected}

@[simp] theorem ofEvents_nil : ofEvents [] = {} := rfl

@[simp] theorem ofEvents_concat (events : List Event) (event : Event) :
    ofEvents (events ++ [event]) = (ofEvents events).take event := by
  rw [ofEvents, List.foldl_append]
  rfl

@[simp] theorem reports_concat (events : List Event) (event : Event) :
    reports (events ++ [event]) = reports events ++ event.report?.toList := by
  rw [reports, List.filterMap_append, reports]
  cases event <;> rfl

/-! ## Counting sources -/

/-- No mismatch has been counted after a report exactly if there was none before it, and it has
none either. -/
theorem unmismatched_recordRun_iff :
    (verdict.recordRun report expected).Unmismatched ↔
      verdict.Unmismatched ∧ report.mismatched = 0 := by
  have mismatches := report.length_mismatchedPaths expected
  rw [← report.mismatched_eq_length] at mismatches
  rw [recordRun_eq, Unmismatched, Unmismatched]
  dsimp only
  omega

theorem unmismatched_take_iff (event : Event) :
    (verdict.take event).Unmismatched ↔
      verdict.Unmismatched ∧ ∀ report ∈ event.report?.toList, report.mismatched = 0 := by
  cases event with
  | smoke outcome => exact (and_iff_left (List.forall_mem_nil _)).symm
  | run report expected =>
      rw [take, unmismatched_recordRun_iff, Event.report?, Option.toList_some,
        List.forall_mem_singleton]
  | fatal => exact (and_iff_left (List.forall_mem_nil _)).symm

/-- No mismatch has been counted exactly if no report has one. -/
theorem unmismatched_ofEvents_iff :
    (ofEvents events).Unmismatched ↔ ∀ report ∈ reports events, report.mismatched = 0 := by
  induction events using List.reverseRecOn with
  | nil => simp [Unmismatched, reports]
  | append_singleton events event inductionHypothesis =>
      rw [ofEvents_concat, reports_concat, unmismatched_take_iff, inductionHypothesis,
        List.forall_mem_append]

/-- The counts balance exactly if no report but the last one has a mismatch. -/
theorem balanced_ofEvents_iff :
    (ofEvents events).Balanced ↔
      ∀ report ∈ (reports events).dropLast, report.mismatched = 0 := by
  induction events using List.reverseRecOn with
  | nil => simp [Balanced, reports]
  | append_singleton events event inductionHypothesis =>
      rw [ofEvents_concat, reports_concat]
      cases event with
      | smoke outcome =>
          rw [Event.report?, Option.toList_none, List.append_nil]
          exact inductionHypothesis
      | run report expected =>
          rw [take, balanced_recordRun_iff, unmismatched_ofEvents_iff, Event.report?,
            Option.toList_some, List.dropLast_concat]
      | fatal =>
          rw [Event.report?, Option.toList_none, List.append_nil]
          exact inductionHypothesis

/-! ## Exit codes -/

/-- A smoke suite failed, and nothing else is wrong. -/
structure FailsBySmoke (verdict : Verdict) : Prop where
  /-- The smoke suite failed. -/
  smokeFailed : verdict.smokeFailed = true
  /-- There are no regressions. -/
  unregressed : verdict.regressions = 0
  /-- The run did not end early. -/
  unended : verdict.fatal = false

theorem exitCode_recordFatal : verdict.recordFatal.exitCode = 2 := rfl

theorem exitCode_le_two : verdict.exitCode ≤ 2 := by
  unfold exitCode
  split
  · exact Nat.le_refl 2
  · split <;> decide

/-- Regressions are never taken back, and nothing else that counts for the exit code changes. -/
theorem exitCode_le_recordRun :
    verdict.exitCode ≤ (verdict.recordRun report expected).exitCode := by
  rw [recordRun_eq, exitCode, exitCode]
  dsimp only
  split
  · exact Nat.le_refl 2
  · split
    next wrong =>
        have still := wrong.imp_right fun regressed => Nat.lt_add_right
          (report.mismatchedPaths.countP (expected.classify · = .regression)) regressed
        exact Nat.le_of_eq (if_pos still).symm
    next => exact Nat.zero_le _

theorem exitCode_recordSmoke (outcome : SmokeOutcome) :
    (verdict.recordSmoke outcome).exitCode =
      if verdict.fatal then 2
      else if outcome.passed = false ∨ 0 < verdict.regressions then 1
      else 0 := by
  cases passes : outcome.passed <;> simp [exitCode, recordSmoke, passes]

theorem exitCode_recordSmoke_lt_iff {outcome : SmokeOutcome} :
    (verdict.recordSmoke outcome).exitCode < verdict.exitCode ↔
      outcome.passed ∧ verdict.FailsBySmoke := by
  rw [exitCode_recordSmoke, exitCode]
  by_cases ended : verdict.fatal = true
  · rw [if_pos ended, if_pos ended]
    refine iff_of_false (Nat.lt_irrefl 2) fun both => ?_
    rw [both.2.unended] at ended
    cases ended
  rw [if_neg ended, if_neg ended]
  by_cases regressed : 0 < verdict.regressions
  · rw [if_pos (.inr regressed), if_pos (.inr regressed)]
    exact iff_of_false (Nat.lt_irrefl 1) fun both => Nat.ne_of_gt regressed both.2.unregressed
  -- With neither, both codes tell about the smoke suites alone.
  have alone : verdict.FailsBySmoke ↔ verdict.smokeFailed = true :=
    ⟨fun fails => fails.smokeFailed, fun smokeFailed =>
      ⟨smokeFailed, Nat.eq_zero_of_not_pos regressed, Bool.eq_false_iff.mpr ended⟩⟩
  rw [alone]
  cases outcome.passed <;> cases verdict.smokeFailed <;> simp [regressed]

/-- An event lowers the exit code exactly if it is a smoke suite that passes, and nothing but a
smoke suite failed before. -/
theorem exitCode_take_lt_iff {event : Event} :
    (verdict.take event).exitCode < verdict.exitCode ↔
      (∃ outcome, event = .smoke outcome ∧ outcome.passed) ∧ verdict.FailsBySmoke := by
  cases event with
  | smoke outcome =>
      rw [take, exitCode_recordSmoke_lt_iff]
      simp
  | run report expected =>
      rw [take]
      refine iff_of_false (Nat.not_lt.mpr verdict.exitCode_le_recordRun) ?_
      rintro ⟨⟨outcome, same, _⟩, _⟩
      cases same
  | fatal =>
      rw [take, exitCode_recordFatal]
      refine iff_of_false (Nat.not_lt.mpr verdict.exitCode_le_two) ?_
      rintro ⟨⟨outcome, same, _⟩, _⟩
      cases same

/-- After every event the counts balance if no report before the last one has a mismatch, and the
exit code is not lower than before, unless a smoke suite passes after one that failed and nothing
else is wrong. -/
theorem counts_balance_and_exitCode_rises (events : List Event) (event : Event) :
    ((∀ report ∈ (reports (events ++ [event])).dropLast, report.mismatched = 0) →
      (ofEvents (events ++ [event])).Balanced) ∧
    ((ofEvents (events ++ [event])).exitCode < (ofEvents events).exitCode ↔
      (∃ outcome, event = .smoke outcome ∧ outcome.passed) ∧ (ofEvents events).FailsBySmoke) := by
  refine ⟨balanced_ofEvents_iff.mpr, ?_⟩
  rw [ofEvents_concat]
  exact (ofEvents events).exitCode_take_lt_iff

/-- A smoke suite whose first check fails. -/
def hidden : SmokeOutcome :=
  ⟨1, some ⟨"fs is exposed", [], 1⟩⟩

/-- Mismatches are counted in a second run, and the smoke suite that passed before it does not
make up for the regression among them. -/
theorem counts_balance_and_exitCode_rises_in_second_run :
    let clean : Report := ⟨[⟨"t/a.js", .passed⟩, ⟨"t/b.js", .created "t/b.tree"⟩]⟩
    let report : Report :=
      ⟨[⟨"t/a.js", .mismatched "t/a.actual"⟩, ⟨"t/b.js", .mismatched "t/b.actual"⟩,
        ⟨"t/c.js", .skipped⟩]⟩
    let expected : Expected := { known := [{ source := "a.js" }], root := some "t" }
    let events : List Event := [.smoke hidden, .run clean expected, .smoke ⟨14, none⟩]
    (∀ report ∈ (reports (events ++ [.run report expected])).dropLast, report.mismatched = 0) ∧
      ofEvents (events ++ [.run report expected]) =
        { smokeAssertions := 14, examined := 3, skipped := 1, expectedMismatches := 1,
          regressions := 1 } ∧
      (ofEvents (events ++ [.run report expected])).Balanced ∧
      ¬(ofEvents (events ++ [.run report expected])).exitCode < (ofEvents events).exitCode := by
  intro clean report expected events
  have earlier : ∀ report ∈ (reports (events ++ [.run report expected])).dropLast,
      report.mismatched = 0 := List.forall_mem_singleton.mpr rfl
  obtain ⟨balanced, lower_iff⟩ :=
    counts_balance_and_exitCode_rises events (.run report expected)
  refine ⟨earlier, by decide +kernel, balanced earlier, fun lower => ?_⟩
  obtain ⟨⟨outcome, same, _⟩, _⟩ := lower_iff.mp lower
  cases same

/-- When a smoke suite is repeated, and a run with a mismatch, the exit code falls and the mismatch
is counted twice. -/
theorem repeated_events_lower_and_unbalance :
    let report : Report := ⟨[⟨"a.js", .mismatched "a.actual"⟩]⟩
    let events : List Event := [.smoke hidden, .smoke ⟨1, none⟩, .run report {}, .run report {}]
    (ofEvents (events.take 1)).exitCode = 1 ∧ (ofEvents (events.take 2)).exitCode = 0 ∧
      (ofEvents events).examined = 1 ∧ (ofEvents events).regressions = 2 ∧
      ¬(ofEvents events).Balanced := by
  decide +kernel

end Verdict
end Baseline
