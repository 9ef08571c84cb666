import Baseline.Proofs.Compare.All
import Baseline.Proofs.Verdict

/-!
# What a run tells

A run either compares every source that its scan finds, or an error ends it: clashing
extensions, a scan that fails, or a source whose comparison fails
(`Suite.compare_eq_iff_completes`, `Suite.compare_eq_iff_aborts`).  The lines it prints and
its verdict tell which, for every file system, also one with injected faults
(`Suite.lines_and_verdict_agree`).
-/

namespace Baseline

variable {σ : Type} [FileAccess σ]

namespace Suite

variable {suite : Suite} {system : σ} {records : List FileRecord} {error : RunError}

/-- Every source that the scan finds is compared, and the records are those of the sources in
the order of the scan. -/
structure Completes (suite : Suite) (system : σ) (records : List FileRecord) : Prop where
  /-- The extensions are all different. -/
  distinct : suite.settings.extensions.clash? = none
  /-- The scan finds the sources of the records. -/
  found : scan system suite.settings.scanOptions suite.settings.root =
    .ok (records.map FileRecord.path)
  /-- No comparison fails. -/
  compared : ∃ last, Compare.Compared suite.parser suite.settings.compareOptions system records last

/-- An error ends the run, and the records are those of the sources compared before, in the
order of the scan. -/
inductive Aborts (suite : Suite) (system : σ) : List FileRecord → RunError → Prop
  /-- Two roles share an extension. -/
  | unusable {clash : ExtensionClash}
      (clashing : suite.settings.extensions.clash? = some clash) :
      Aborts suite system [] (.settings "comparator options" (.clash clash))
  /-- The scan fails. -/
  | unscanned {error : RunError}
      (distinct : suite.settings.extensions.clash? = none)
      (failed : scan system suite.settings.scanOptions suite.settings.root = .error error) :
      Aborts suite system [] error
  /-- The comparison of a source fails. -/
  | stopped {records : List FileRecord} {error : RunError} {path : String} {rest : List String}
      {middle last : σ}
      (distinct : suite.settings.extensions.clash? = none)
      (found : scan system suite.settings.scanOptions suite.settings.root =
        .ok (records.map FileRecord.path ++ path :: rest))
      (compared : Compare.Compared suite.parser suite.settings.compareOptions system records middle)
      (failed : (Compare.compareFile suite.parser suite.settings.compareOptions path).run middle =
        (.error error, last)) :
      Aborts suite system records error

theorem compare_eq_iff_completes :
    (suite.compare.run system).1 = ⟨records, none⟩ ↔ suite.Completes system records := by
  constructor
  · intro compared
    cases distinct : suite.settings.extensions.clash? with
    | some clash =>
        rw [compare_run_of_clash distinct] at compared
        cases compared
    | none =>
        cases found : scan system suite.settings.scanOptions suite.settings.root with
        | error error =>
            rw [compare_run_of_unscanned distinct found] at compared
            cases compared
        | ok paths =>
            rw [compare_run_of_distinct distinct found] at compared
            obtain ⟨paths_eq, all⟩ := Compare.compareAll_eq_none_iff.mp (Prod.ext compared rfl)
            exact ⟨distinct, paths_eq ▸ found, _, all⟩
  · rintro ⟨distinct, found, last, compared⟩
    rw [compare_run_of_distinct distinct found,
      Compare.compareAll_eq_none_iff.mpr ⟨rfl, compared⟩]

theorem compare_eq_iff_aborts :
    (suite.compare.run system).1 = ⟨records, some error⟩ ↔
      suite.Aborts system records error := by
  constructor
  · intro compared
    cases distinct : suite.settings.extensions.clash? with
    | some clash =>
        rw [compare_run_of_clash distinct] at compared
        cases compared
        exact .unusable distinct
    | none =>
        cases found : scan system suite.settings.scanOptions suite.settings.root with
        | error error =>
            rw [compare_run_of_unscanned distinct found] at compared
            cases compared
            exact .unscanned distinct found
        | ok paths =>
            rw [compare_run_of_distinct distinct found] at compared
            obtain ⟨path, rest, middle, rfl, all, failed⟩ :=
              Compare.compareAll_eq_some_iff.mp (Prod.ext compared rfl)
            exact .stopped distinct found all failed
  · rintro (clashing | ⟨distinct, failed⟩ | ⟨distinct, found, compared, failed⟩)
    · rw [compare_run_of_clash clashing]
    · rw [compare_run_of_unscanned distinct failed]
    · rw [compare_run_of_distinct distinct found,
        Compare.compareAll_eq_some_iff.mpr ⟨_, _, _, rfl, compared, failed⟩]

/-! ## What is printed and counted -/

/-- What a run gives before its sources are compared. -/
def start (suite : Suite) (system : σ) : SuiteResult where
  lines := Transcript.banner suite.name ++ (suite.smoke system).elim [] Transcript.smoke
  verdict := (suite.smoke system).elim {} (Verdict.recordSmoke {})

theorem lines_start (suite : Suite) (system : σ) :
    (suite.start system).lines =
      Transcript.banner suite.name ++
        if suite.skipSmoke then []
        else Transcript.smoke
          (Smoke.run (FileAccess.surface system) suite.process suite.parser.surface) := by
  rw [start, smoke]
  cases suite.skipSmoke <;> rfl

/-- Nothing is counted before the sources are compared, but the smoke suite may have failed. -/
theorem verdict_start (suite : Suite) (system : σ) :
    ∃ total,
      (suite.start system).verdict =
        { smokeAssertions := total
          smokeFailed := !suite.skipSmoke &&
            !(Smoke.run (FileAccess.surface system) suite.process suite.parser.surface).passed } := by
  rw [start, smoke]
  cases suite.skipSmoke
  · exact ⟨_, rfl⟩
  · exact ⟨_, rfl⟩

/-- One line tells each record, and what is left follows from the comparisons. -/
theorem run_of_compare
    {progress : Compare.Progress}
    (compared : (suite.compare.run system).1 = progress) :
    (suite.run.run system).1 =
      ⟨(suite.start system).lines ++ progress.records.map FileRecord.line ++
          (suite.conclude (suite.start system).verdict progress).lines,
        (suite.conclude (suite.start system).verdict progress).verdict⟩ := by
  rw [← compared, List.map_eq_flatMap]
  rfl

theorem run_of_completes (completes : suite.Completes system records) :
    (suite.run.run system).1 =
      ⟨(suite.start system).lines ++ records.map FileRecord.line ++
          Transcript.summary ⟨records⟩ (suite.expected.withDefaultRoot suite.settings.root),
        (suite.start system).verdict.recordRun ⟨records⟩
          (suite.expected.withDefaultRoot suite.settings.root)⟩ :=
  run_of_compare (compare_eq_iff_completes.mpr completes)

theorem run_of_aborts (aborts : suite.Aborts system records error) :
    (suite.run.run system).1 =
      ⟨(suite.start system).lines ++ records.map FileRecord.line ++ Transcript.fatal error,
        (suite.start system).verdict.recordFatal⟩ :=
  run_of_compare (compare_eq_iff_aborts.mpr aborts)

/-- Every run compares all sources that its scan finds, unless an error ends it. -/
theorem exists_completes_or_aborts (suite : Suite) (system : σ) :
    ∃ records,
      suite.Completes system records ∨ ∃ error, suite.Aborts system records error := by
  rcases compared : (suite.compare.run system).1 with ⟨records, _ | error⟩
  · exact ⟨records, .inl (compare_eq_iff_completes.mp compared)⟩
  · exact ⟨records, .inr ⟨error, compare_eq_iff_aborts.mp compared⟩⟩

theorem fatal_of_completes (completes : suite.Completes system records) :
    (suite.run.run system).1.verdict.fatal = false := by
  obtain ⟨total, verdict_eq⟩ := suite.verdict_start system
  rw [run_of_completes completes, Verdict.recordRun_fatal, verdict_eq]

/-- An error ends the run exactly if the verdict says so. -/
theorem fatal_iff_aborts :
    (suite.run.run system).1.verdict.fatal = true ↔
      ∃ records error, suite.Aborts system records error := by
  constructor
  · intro fatal
    obtain ⟨records, completes | ⟨error, aborts⟩⟩ := exists_completes_or_aborts suite system
    · rw [fatal_of_completes completes] at fatal
      cases fatal
    · exact ⟨records, error, aborts⟩
  · rintro ⟨records, error, aborts⟩
    rw [run_of_aborts aborts]
    rfl

/-- A run that compares every source counts each of them once, and its exit code tells
whether the smoke suite failed or there are regressions. -/
theorem verdict_of_completes (completes : suite.Completes system records) :
    let smoke := Smoke.run (FileAccess.surface system) suite.process suite.parser.surface
    let verdict := (suite.run.run system).1.verdict
    verdict.examined = records.length ∧
      verdict.examined =
        verdict.passed + verdict.created + verdict.skipped + verdict.expectedMismatches +
          verdict.regressions ∧
      verdict.exitCode =
        if (suite.skipSmoke = false ∧ smoke.passed = false) ∨ 0 < verdict.regressions then 1
        else 0 := by
  intro smoke verdict
  obtain ⟨total, verdict_eq⟩ := suite.verdict_start system
  have recorded : verdict = (suite.start system).verdict.recordRun ⟨records⟩
      (suite.expected.withDefaultRoot suite.settings.root) :=
    congrArg SuiteResult.verdict (run_of_completes completes)
  have unfatal : verdict.fatal = false := fatal_of_completes completes
  have failed : verdict.smokeFailed = (!suite.skipSmoke && !smoke.passed) := by
    rw [recorded, Verdict.recordRun_eq, verdict_eq]
  refine ⟨?_, ?_, ?_⟩
  · rw [recorded, Verdict.recordRun_eq]
    rfl
  · rw [recorded]
    refine (Verdict.balanced_recordRun_iff _).mpr ?_
    rw [verdict_eq]
    exact ⟨rfl, rfl⟩
  · rw [Verdict.exitCode, unfatal, failed]
    simp only [Bool.false_eq_true, if_false, Bool.and_eq_true, Bool.not_eq_true']

/-- The lines of a run are the banner, those of the smoke suite unless it is left out, one for
each source compared in the order of the scan, and then either the lines of the summary of all
sources that the scan finds or one line with the error that ended the run.  The verdict is fatal
exactly in the latter case, and then counts no sources; otherwise it counts each source
once, and the exit code tells whether the smoke suite failed or there are regressions. -/
theorem lines_and_verdict_agree (suite : Suite) (system : σ) :
    let result := (suite.run.run system).1
    let verdict := result.verdict
    let smoke := Smoke.run (FileAccess.surface system) suite.process suite.parser.surface
    let smokeLines := match smoke.failure with
      | none => [s!"No failure. Total tests: {smoke.total} tests."]
      | some failure =>
          s!"Test FAILS: {failure.label}" :: failure.trace.map (s!"  passed: {·}") ++
            [s!"Total tests: {smoke.total} tests."]
    let opening := s!"Running unit tests for {suite.name}..." ::
      if suite.skipSmoke then [] else smokeLines
    let expected := suite.expected.withDefaultRoot suite.settings.root
    (verdict.fatal = true ↔ ∃ records error, suite.Aborts system records error) ∧
      ∃ records,
        (suite.Completes system records ∧
          result.lines =
            opening ++ records.map FileRecord.line ++
              Text.lines (Report.summary ⟨records⟩ expected) ∧
          verdict.fatal = false ∧
          verdict.examined = records.length ∧
          verdict.examined =
            verdict.passed + verdict.created + verdict.skipped + verdict.expectedMismatches +
              verdict.regressions ∧
          verdict.exitCode =
            if (suite.skipSmoke = false ∧ smoke.passed = false) ∨ 0 < verdict.regressions then 1
            else 0) ∨
        ∃ error,
          suite.Aborts system records error ∧
            result.lines =
              opening ++ records.map FileRecord.line ++ [s!"ABORTED: {error.message}"] ∧
            verdict.fatal = true ∧ verdict.examined = 0 ∧ verdict.exitCode = 2 := by
  intro result verdict smoke smokeLines opening expected
  have opening_eq : (suite.start system).lines = opening := lines_start suite system
  obtain ⟨records, completes | ⟨error, aborts⟩⟩ := exists_completes_or_aborts suite system
  · have counted := verdict_of_completes completes
    refine ⟨fatal_iff_aborts, records, .inl ⟨completes, ?_, fatal_of_completes completes, counted⟩⟩
    rw [← opening_eq]
    exact congrArg SuiteResult.lines (run_of_completes completes)
  · have ended : verdict = (suite.start system).verdict.recordFatal :=
      congrArg SuiteResult.verdict (run_of_aborts aborts)
    obtain ⟨total, verdict_eq⟩ := suite.verdict_start system
    refine ⟨fatal_iff_aborts, records, .inr ⟨error, aborts, ?_, ?_⟩⟩
    · rw [← opening_eq]
      exact congrArg SuiteResult.lines (run_of_aborts aborts)
    · rw [ended, verdict_eq]
      exact ⟨rfl, rfl, rfl⟩

end Suite
end Baseline
