import Baseline.Proofs.Compare.Again
import Baseline.Proofs.Compare.History
import Baseline.Proofs.Scan.Chains
import Baseline.Proofs.Suite.Harm
import Baseline.Proofs.Suite.Transcript

/-!
# Making a run twice

With extensions that hold neither dots nor slashes, the artifacts of a run are never
sources, so a second run finds the sources of the first one in the same order
(`Suite.rescanned`), and comparing them repeats the first report or the first error
(`Suite.compare_again`).  The second verdict is the first one with the references that
were created counted as passed (`Suite.run_twice`).
-/

namespace Baseline

/-! ## Verdicts -/

namespace Verdict

/-- The verdict when the references that were created have been met. -/
def again (verdict : Verdict) : Verdict :=
  { verdict with passed := verdict.passed + verdict.created, created := 0 }

variable (verdict : Verdict)

@[simp] theorem exitCode_again : verdict.again.exitCode = verdict.exitCode := rfl

theorem recordRun_again (report : Report) (expected : Expected) :
    verdict.recordRun report.again expected = (verdict.recordRun report expected).again := by
  rw [recordRun_eq, recordRun_eq, Report.mismatchedPaths_again, Report.examined_again,
    Report.passed_again, Report.created_again, Report.skipped_again]
  rfl

end Verdict

/-! ## Comparing the sources of a scan -/

namespace Compare

variable
  {parser : Parser}
  {options : CompareOptions}
  {paths : List String}
  {path : String}
  {store current next : Store}
  {result : Except RunError Outcome}

/-- If artifacts are not named as sources, comparing a source changes nothing that a scan
sees. -/
theorem shows_compared
    (shows : Scan.Shows options.extensions.source store current)
    (separated : options.extensions.Separated)
    (named : Path.hasExtension path options.extensions.source)
    (comparison : Comparison parser options path current result next) :
    Scan.Shows options.extensions.source store next := by
  refine comparison.preserves (Scan.Shows options.extensions.source store) ?_ ?_ ?_ shows
  · exact fun _ _ shows removed => shows.removed (separated.actual_unnamed named) removed
  · exact fun _ _ _ shows written => shows.written (separated.actual_unnamed named) written
  · exact fun _ _ _ shows _ _ written => shows.written (separated.reference_unnamed named) written

end Compare

namespace Suite

variable {suite : Suite} {store : Store} {paths : List String} {path other : String}

/-- Artifacts of sources that a scan finds do not lie in artifacts. -/
theorem steady_of_mem_scan
    (wellFormed : store.WellFormed)
    (linkless : store.Linkless)
    (referenceSlashless : Extensions.Slashless suite.settings.extensions.reference)
    (actualSlashless : Extensions.Slashless suite.settings.extensions.actual)
    (found : scan store suite.settings.scanOptions suite.settings.root = .ok paths)
    (member : path ∈ paths)
    (slashless : Extensions.Slashless other) :
    Compare.Steady suite.settings.compareOptions paths store
      (.ofPath (Path.artifact path suite.settings.extensions.source other)) := by
  obtain ⟨directory, stem, splits⟩ :=
    Path.exists_splits_of_hasExtension (hasExtension_of_mem_scan found member)
  have inside (location : Location) (name : String) : location ≠ location ++ [name] := by simp
  rw [splits.artifact_eq slashless, Compare.Steady, Location.parent, List.dropLast_concat]
  rcases Scan.parent_of_mem_scan wellFormed linkless found member with around | alone
  · left
    rwa [splits.location_eq, Location.parent, List.dropLast_concat] at around
  · -- The root of the scan is the only source, and all artifacts lie beside it.
    right
    rintro ⟨source, sourceMember, same | same⟩
    · rw [alone source sourceMember, CompareOptions.referencePath] at same
      exact inside _ _ (same.trans (splits.artifact_eq referenceSlashless))
    · rw [alone source sourceMember, CompareOptions.actualPath] at same
      exact inside _ _ (same.trans (splits.artifact_eq actualSlashless))

/-- Comparisons of the sources that a scan finds do not disturb each other. -/
theorem orderly_of_scan
    (wellFormed : store.WellFormed)
    (linkless : store.Linkless)
    (separated : suite.settings.extensions.Separated)
    (referenceSlashless : Extensions.Slashless suite.settings.extensions.reference)
    (actualSlashless : Extensions.Slashless suite.settings.extensions.actual)
    (found : scan store suite.settings.scanOptions suite.settings.root = .ok paths) :
    Compare.Orderly suite.settings.compareOptions paths store where
  wellFormed := wellFormed
  linkless := linkless
  source {path} member := by
    have pathNamed := Scan.isNamed_ofPath (hasExtension_of_mem_scan found member)
    rintro ⟨other, otherMember, same | same⟩
    · rw [same] at pathNamed
      exact Bool.eq_false_iff.mp
        (separated.reference_unnamed (hasExtension_of_mem_scan found otherMember)) pathNamed
    · rw [same] at pathNamed
      exact Bool.eq_false_iff.mp
        (separated.actual_unnamed (hasExtension_of_mem_scan found otherMember)) pathNamed
  apart leftMember rightMember :=
    separated.apart (hasExtension_of_mem_scan found leftMember)
      (hasExtension_of_mem_scan found rightMember)
  unlike := by
    refine (Scan.pairwise_of_scan wellFormed found).imp_of_mem ?_
    intro left right leftMember rightMember different
    have leftNamed := hasExtension_of_mem_scan found leftMember
    have rightNamed := hasExtension_of_mem_scan found rightMember
    exact ⟨mt (Path.ofPath_eq_of_artifact_eq leftNamed rightNamed referenceSlashless) different,
      mt (Path.ofPath_eq_of_artifact_eq leftNamed rightNamed actualSlashless) different⟩
  steady member _ :=
    ⟨steady_of_mem_scan wellFormed linkless referenceSlashless actualSlashless found member
        referenceSlashless,
      steady_of_mem_scan wellFormed linkless referenceSlashless actualSlashless found member
        actualSlashless⟩

/-- No artifact of a source that a scan finds lies at the root. -/
theorem rootless_of_mem_scan
    (actualSlashless : Extensions.Slashless suite.settings.extensions.actual)
    (found : scan store suite.settings.scanOptions suite.settings.root = .ok paths)
    (member : path ∈ paths) :
    Compare.Rootless suite.settings.compareOptions path store := by
  obtain ⟨directory, stem, splits⟩ :=
    Path.exists_splits_of_hasExtension (hasExtension_of_mem_scan found member)
  intro _ root
  rw [CompareOptions.actualPath] at root
  cases List.append_ne_nil_of_right_ne_nil _ (List.cons_ne_nil _ _)
    ((splits.artifact_eq actualSlashless).symm.trans root)

/-! ## The second run -/

/-- A second scan finds what the first one has found. -/
theorem rescanned
    (wellFormed : store.WellFormed)
    (linkless : store.Linkless)
    (distinct : suite.settings.extensions.clash? = none)
    (separated : suite.settings.extensions.Separated) :
    scan (suite.compare.run store).2 suite.settings.scanOptions suite.settings.root =
      scan store suite.settings.scanOptions suite.settings.root := by
  obtain ⟨paths, found⟩ : ∃ paths,
      scan store suite.settings.scanOptions suite.settings.root = .ok paths :=
    ⟨_, Scan.scan_eq _ _ _⟩
  have initial : Scan.Shows suite.settings.compareOptions.extensions.source store store :=
    ⟨wellFormed, linkless, rfl⟩
  have shows : Scan.Shows suite.settings.compareOptions.extensions.source store
      (suite.compare.run store).2 := by
    rw [compare_state_of_distinct distinct found]
    refine Compare.compareAll_preserves _ ?_ initial
    intro path member current result next comparison shows
    exact Compare.shows_compared shows separated (hasExtension_of_mem_scan found member) comparison
  have same : Scan.visible suite.settings.scanOptions.sourceExtension
      (suite.compare.run store).2 =
        Scan.visible suite.settings.scanOptions.sourceExtension store :=
    shows.visible_eq
  exact Scan.scan_eq_of_visible_eq wellFormed linkless shows.wellFormed shows.linkless same
    suite.settings.root

/-- Comparing the sources again repeats the outcomes and changes no file; the store still
shows the same capabilities. -/
theorem compare_again
    (parses : ∀ text value, suite.parser.parse text = .value value → value.WellFormed)
    (wellFormed : store.WellFormed)
    (linkless : store.Linkless)
    (distinct : suite.settings.extensions.clash? = none)
    (separated : suite.settings.extensions.Separated)
    (referenceSlashless : Extensions.Slashless suite.settings.extensions.reference)
    (actualSlashless : Extensions.Slashless suite.settings.extensions.actual) :
    let first := suite.compare.run store
    let second := suite.compare.run first.2
    second.1 = first.1.again ∧ first.2.surface = store.surface ∧
      ∀ path, second.2.read path = first.2.read path := by
  obtain ⟨paths, found⟩ : ∃ paths,
      scan store suite.settings.scanOptions suite.settings.root = .ok paths :=
    ⟨_, Scan.scan_eq _ _ _⟩
  have foundAgain := (rescanned wellFormed linkless distinct separated).trans found
  have orderly := orderly_of_scan wellFormed linkless separated referenceSlashless
    actualSlashless found
  intro first second
  have first_eq := compare_run_of_distinct distinct found
  have second_eq := compare_run_of_distinct distinct foundAgain
  have untouched : Compare.Altered suite.settings.compareOptions paths store store :=
    .refl wellFormed linkless
  have altered : Compare.Altered suite.settings.compareOptions paths store first.2 := by
    rw [show first = _ from first_eq]
    exact untouched.comparedAll
  obtain ⟨repeated, kept⟩ := Compare.compareAll_again parses orderly (fun _ member => member)
    orderly.unlike untouched altered
    (fun _ member => rootless_of_mem_scan actualSlashless found member)
    fun location => congrArg (fun run => run.2.find? location) first_eq
  refine ⟨?_, altered.surface_eq, fun path => ?_⟩
  · rw [show second = _ from second_eq, repeated, ← first_eq]
  · rw [show second = _ from second_eq]
    exact altered.linkless.read_eq altered.comparedAll.linkless (kept (.ofPath path))

/-- The verdict of a run before its sources are compared. -/
def opening (suite : Suite) (store : Store) : Verdict :=
  (suite.smoke store).elim {} (Verdict.recordSmoke {})

theorem opening_fatal (suite : Suite) (store : Store) : (suite.opening store).fatal = false := by
  unfold opening
  cases suite.smoke store <;> rfl

/-- The smoke suite looks at the capabilities of a store only. -/
theorem opening_eq_of_surface_eq
    {after : Store}
    (same : after.surface = store.surface) :
    suite.opening after = suite.opening store := by
  have smoke_eq : suite.smoke after = suite.smoke store := by
    rw [smoke, smoke]
    change (if _ then none else some (Smoke.run after.surface _ _)) =
      (if _ then none else some (Smoke.run store.surface _ _))
    rw [same]
  rw [opening, opening, smoke_eq]

/-- A run that is not ended early takes over the report. -/
theorem run_verdict_of_ok
    {report : Report}
    (reported : (suite.compare.run store).1.report = .ok report) :
    (suite.run.run store).1.verdict =
      (suite.opening store).recordRun report
        (suite.expected.withDefaultRoot suite.settings.root) := by
  rw [run_of_compare rfl, conclude, reported]
  rfl

/-- A run that is ended early says so, and its last line tells the error. -/
theorem run_of_error
    {error : RunError}
    (reported : (suite.compare.run store).1.report = .error error) :
    (suite.run.run store).1.verdict = (suite.opening store).recordFatal ∧
      (suite.run.run store).1.lines.getLast? = some s!"ABORTED: {error.message}" := by
  rw [run_of_compare rfl, conclude, reported]
  exact ⟨rfl, List.getLast?_concat⟩

/-- Without links and with extensions that hold neither dots nor slashes, a second run
repeats the first.  If the first run is not ended early, the second compares the same
sources, its verdict counts the references that were created as passed, and no file is
changed; otherwise both end with the same error. -/
theorem run_twice
    {writers : List Store.Writer}
    (parses : ∀ text value, suite.parser.parse text = .value value → value.WellFormed)
    (reachable : Store.Reachable store writers)
    (linkless : store.Linkless)
    (distinct : suite.settings.extensions.clash? = none)
    (sourceSimple : Extensions.Simple suite.settings.extensions.source)
    (referenceSimple : Extensions.Simple suite.settings.extensions.reference)
    (actualSimple : Extensions.Simple suite.settings.extensions.actual) :
    let first := suite.run.run store
    let second := suite.run.run first.2
    (first.1.verdict.fatal = false →
        (suite.compare.run first.2).1.records.map FileRecord.path =
            (suite.compare.run store).1.records.map FileRecord.path ∧
          second.1.verdict = first.1.verdict.again ∧
            second.1.verdict.exitCode = first.1.verdict.exitCode ∧
              ∀ path, second.2.read path = first.2.read path) ∧
      (first.1.verdict.fatal = true →
        second.1.verdict.fatal = true ∧
          ∃ error : RunError,
            first.1.lines.getLast? = some s!"ABORTED: {error.message}" ∧
              second.1.lines.getLast? = some s!"ABORTED: {error.message}") := by
  intro first second
  have separated := (Extensions.suffixFree_of_simple distinct sourceSimple referenceSimple
    actualSimple).separated referenceSimple.2 actualSimple.2
  obtain ⟨repeated, surface_eq, kept⟩ := compare_again parses reachable.wellFormed linkless distinct
    separated referenceSimple.2 actualSimple.2
  have opening_eq : suite.opening first.2 = suite.opening store :=
    opening_eq_of_surface_eq surface_eq
  change (suite.compare.run first.2).1 = _ at repeated
  cases reported : (suite.compare.run store).1.report with
  | ok report =>
      have reportedAgain : (suite.compare.run first.2).1.report = .ok report.again := by
        rw [repeated, Compare.Progress.report_again, reported]
        rfl
      have first_eq := run_verdict_of_ok reported
      have second_eq := run_verdict_of_ok reportedAgain
      rw [opening_eq, Verdict.recordRun_again, ← first_eq] at second_eq
      refine ⟨fun _ => ⟨?_, second_eq, ?_, kept⟩, fun fatal => ?_⟩
      · rw [repeated, Compare.Progress.paths_again]
      · exact (congrArg Verdict.exitCode second_eq).trans (Verdict.exitCode_again _)
      · change (suite.run.run store).1.verdict.fatal = true at fatal
        rw [first_eq, Verdict.recordRun_fatal, opening_fatal] at fatal
        cases fatal
  | error error =>
      have reportedAgain : (suite.compare.run first.2).1.report = .error error := by
        rw [repeated, Compare.Progress.report_again, reported]
        rfl
      obtain ⟨first_eq, firstLast⟩ := run_of_error reported
      obtain ⟨second_eq, secondLast⟩ := run_of_error reportedAgain
      refine ⟨fun fatal => ?_, fun _ => ⟨?_, error, firstLast, secondLast⟩⟩
      · change (suite.run.run store).1.verdict.fatal = false at fatal
        rw [first_eq] at fatal
        cases fatal
      · exact congrArg Verdict.fatal second_eq

/-- A directory with a source to record and an empty one. -/
def unrecorded : Store :=
  Store.folder [("a.js", "x"), ("b.js", "")]

/-- A run over the directory creates a reference, and the next run passes it. -/
theorem run_unrecorded_twice :
    let first := ({} : Extensions).suite.run.run unrecorded
    let second := ({} : Extensions).suite.run.run first.2
    (first.1.verdict.fatal = false ∧ first.1.verdict.passed = 0 ∧ first.1.verdict.created = 1) ∧
      (second.1.verdict.passed = 1 ∧ second.1.verdict.created = 0) ∧
        ∀ path, second.2.read path = first.2.read path := by
  have reachable : Store.Reachable unrecorded [] := Store.folder_reachable (by decide)
  have distinct : ({} : Extensions).suite.settings.extensions.clash? = none := rfl
  have repeats := run_twice (fun _ _ => Compare.lineList_wellFormed) reachable
    (Store.folder_linkless _) distinct (by decide) (by decide) (by decide)
  have unfatal : (({} : Extensions).suite.run.run unrecorded).1.verdict.fatal = false := by
    decide +kernel
  have passed : (({} : Extensions).suite.run.run unrecorded).1.verdict.passed = 0 := by
    decide +kernel
  have created : (({} : Extensions).suite.run.run unrecorded).1.verdict.created = 1 := by
    decide +kernel
  obtain ⟨_, verdict_eq, _, kept⟩ := repeats.1 unfatal
  refine ⟨⟨unfatal, passed, created⟩, ?_, kept⟩
  rw [verdict_eq, Verdict.again, passed, created]
  exact ⟨rfl, rfl⟩

end Suite
end Baseline
