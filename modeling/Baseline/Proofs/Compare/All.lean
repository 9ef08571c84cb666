import Baseline.Proofs.Compare.Comparison
import Baseline.Proofs.Scan.Walk
import Baseline.Suite

/-!
# Comparing the sources of a run

A run changes its files only by comparing the sources that its scan finds, one after
the other until one of them ends it (`Suite.run_state_eq`, `compareAll_eq_none_iff`,
`compareAll_eq_some_iff`).  So what every such comparison preserves is preserved by the run
(`compareAll_preserves`).
-/

namespace Baseline
namespace Compare

variable
  {parser : Parser}
  {options : CompareOptions}
  {paths : List String}
  {path : String}
  {store : Store}

section AnySystem

variable {σ : Type} [FileAccess σ] {system after : σ}

/-- Nothing is compared after a comparison that fails. -/
theorem compareAll_run_of_error
    {error : RunError}
    (rest : List String)
    (ran : (compareFile parser options path).run system = (.error error, after)) :
    (compareAll parser options (path :: rest)).run system = (⟨[], some error⟩, after) := by
  have ran' : (compareFile parser options path).run.run system = (.error error, after) := ran
  rw [compareAll, StateT.run_bind, ran']
  rfl

theorem compareAll_run_of_ok
    {outcome : Outcome}
    (rest : List String)
    (ran : (compareFile parser options path).run system = (.ok outcome, after)) :
    (compareAll parser options (path :: rest)).run system =
      (⟨⟨path, outcome⟩ :: ((compareAll parser options rest).run after).1.records,
        ((compareAll parser options rest).run after).1.error?⟩,
        ((compareAll parser options rest).run after).2) := by
  have ran' : (compareFile parser options path).run.run system = (.ok outcome, after) := ran
  rw [compareAll, StateT.run_bind, ran']
  rfl

/-- Comparing the sources of the records one after the other gives their outcomes and leads
from one state to the other. -/
inductive Compared (parser : Parser) (options : CompareOptions) :
    σ → List FileRecord → σ → Prop
  | nil (system : σ) : Compared parser options system [] system
  | cons {system next last : σ} {path : String} {outcome : Outcome} {later : List FileRecord}
      (now : (compareFile parser options path).run system = (.ok outcome, next))
      (rest : Compared parser options next later last) :
      Compared parser options system (⟨path, outcome⟩ :: later) last

/-- All sources are compared exactly if no comparison fails. -/
theorem compareAll_eq_none_iff
    {system last : σ}
    {records : List FileRecord} :
    (compareAll parser options paths).run system = (⟨records, none⟩, last) ↔
      records.map FileRecord.path = paths ∧ Compared parser options system records last := by
  constructor
  · intro ran
    induction paths generalizing system records with
    | nil =>
        cases ran
        exact ⟨rfl, .nil _⟩
    | cons path rest inductionHypothesis =>
        cases first : (compareFile parser options path).run system with
        | mk result next =>
            cases result with
            | error error =>
                rw [compareAll_run_of_error rest first] at ran
                cases ran
            | ok outcome =>
                rw [compareAll_run_of_ok rest first] at ran
                cases later : (compareAll parser options rest).run next with
                | mk progress final =>
                    obtain ⟨recordsLater, error?⟩ := progress
                    rw [later] at ran
                    cases ran
                    obtain ⟨paths_eq, compared⟩ := inductionHypothesis later
                    exact ⟨congrArg (path :: ·) paths_eq, .cons first compared⟩
  · rintro ⟨rfl, compared⟩
    induction compared with
    | nil system => rfl
    | cons now rest inductionHypothesis =>
        rw [List.map_cons, compareAll_run_of_ok _ now, inductionHypothesis]

/-- An error ends the comparisons exactly if the comparison of one source fails with it. -/
theorem compareAll_eq_some_iff
    {system last : σ}
    {records : List FileRecord}
    {error : RunError} :
    (compareAll parser options paths).run system = (⟨records, some error⟩, last) ↔
      ∃ path rest middle,
        paths = records.map FileRecord.path ++ path :: rest ∧
          Compared parser options system records middle ∧
            (compareFile parser options path).run middle = (.error error, last) := by
  constructor
  · intro ran
    induction paths generalizing system records with
    | nil => cases ran
    | cons path rest inductionHypothesis =>
        cases first : (compareFile parser options path).run system with
        | mk result next =>
            cases result with
            | error failure =>
                rw [compareAll_run_of_error rest first] at ran
                cases ran
                exact ⟨path, rest, system, rfl, .nil system, first⟩
            | ok outcome =>
                rw [compareAll_run_of_ok rest first] at ran
                cases later : (compareAll parser options rest).run next with
                | mk progress final =>
                    obtain ⟨recordsLater, error?⟩ := progress
                    rw [later] at ran
                    cases ran
                    obtain ⟨failing, left, middle, paths_eq, compared, failed⟩ :=
                      inductionHypothesis later
                    exact ⟨failing, left, middle, congrArg (path :: ·) paths_eq,
                      .cons first compared, failed⟩
  · rintro ⟨path, rest, middle, rfl, compared, failed⟩
    induction compared with
    | nil system => exact compareAll_run_of_error rest failed
    | cons now later inductionHypothesis =>
        rw [List.map_cons, List.cons_append, compareAll_run_of_ok _ now,
          inductionHypothesis failed]

/-- The records are those of the sources in their order; sources are left over exactly if
an error ends the run. -/
theorem exists_left_of_compareAll
    (parser : Parser)
    (options : CompareOptions)
    (paths : List String)
    (system : σ) :
    ∃ left,
      paths = ((compareAll parser options paths).run system).1.records.map FileRecord.path ++ left ∧
        (left = [] ↔ ((compareAll parser options paths).run system).1.error? = none) := by
  rcases ran : (compareAll parser options paths).run system with ⟨⟨records, _ | error⟩, last⟩
  · obtain ⟨paths_eq, _⟩ := compareAll_eq_none_iff.mp ran
    exact ⟨[], by rw [paths_eq, List.append_nil], iff_of_true rfl rfl⟩
  · obtain ⟨path, rest, _, paths_eq, _⟩ := compareAll_eq_some_iff.mp ran
    exact ⟨path :: rest, paths_eq, iff_of_false (List.cons_ne_nil _ _) (Option.some_ne_none _)⟩

end AnySystem

/-- What every comparison of one of the sources preserves is preserved by comparing
them all. -/
theorem compareAll_preserves
    (invariant : Store → Prop)
    (step : ∀ path ∈ paths, ∀ store result after,
      Comparison parser options path store result after → invariant store → invariant after)
    (initial : invariant store) :
    invariant ((compareAll parser options paths).run store).2 := by
  induction paths generalizing store with
  | nil => exact initial
  | cons path rest inductionHypothesis =>
      obtain ⟨stepNow, stepLater⟩ := List.forall_mem_cons.mp step
      cases ran : (compareFile parser options path).run store with
      | mk result after =>
          have next := stepNow store result after (compareFile_run_eq_iff.mp ran) initial
          cases result with
          | error error =>
              rw [compareAll_run_of_error rest ran]
              exact next
          | ok outcome =>
              rw [compareAll_run_of_ok rest ran]
              exact inductionHypothesis stepLater next

end Compare

namespace Suite

variable {suite : Suite} {store : Store}

/-- A run leaves the store in which comparing the sources ends. -/
theorem run_state_eq (suite : Suite) (store : Store) :
    (suite.run.run store).2 = (suite.compare.run store).2 := rfl

section AnySystem

variable {σ : Type} [FileAccess σ] {system : σ}

/-- Extensions that clash end a run before anything is done. -/
theorem compare_run_of_clash
    {clash : ExtensionClash}
    (clashing : suite.settings.extensions.clash? = some clash) :
    suite.compare.run system =
      (⟨[], some (.settings "comparator options" (.clash clash))⟩, system) := by
  have checked : Compare.checkExtensions suite.settings.compareOptions.extensions =
      .error (.settings "comparator options" (.clash clash)) := by
    rw [Compare.checkExtensions, Settings.compareOptions, clashing]
  simp only [Suite.compare, checked]
  rfl

/-- Otherwise the scan comes first. -/
theorem compare_run_of_checked (distinct : suite.settings.extensions.clash? = none) :
    suite.compare.run system =
      match scan system suite.settings.scanOptions suite.settings.root with
      | .error error => (⟨[], some error⟩, system)
      | .ok paths =>
          (Compare.compareAll suite.parser suite.settings.compareOptions paths).run system := by
  have checked : Compare.checkExtensions suite.settings.compareOptions.extensions = .ok () := by
    rw [Compare.checkExtensions, Settings.compareOptions, distinct]
  have getting (next : σ → StateM σ Compare.Progress) :
      (get >>= next).run system = (next system).run system := rfl
  simp only [Suite.compare, checked]
  rw [getting]
  cases scan system suite.settings.scanOptions suite.settings.root <;> rfl

/-- The sources that the scan finds are compared. -/
theorem compare_run_of_distinct
    {paths : List String}
    (distinct : suite.settings.extensions.clash? = none)
    (found : scan system suite.settings.scanOptions suite.settings.root = .ok paths) :
    suite.compare.run system =
      (Compare.compareAll suite.parser suite.settings.compareOptions paths).run system := by
  rw [compare_run_of_checked distinct, found]

/-- A scan that fails ends a run before anything is compared. -/
theorem compare_run_of_unscanned
    {error : RunError}
    (distinct : suite.settings.extensions.clash? = none)
    (unscanned : scan system suite.settings.scanOptions suite.settings.root = .error error) :
    suite.compare.run system = (⟨[], some error⟩, system) := by
  rw [compare_run_of_checked distinct, unscanned]

end AnySystem

theorem compare_state_of_clash
    {clash : ExtensionClash}
    (clashing : suite.settings.extensions.clash? = some clash) :
    (suite.compare.run store).2 = store := by
  rw [compare_run_of_clash clashing]

theorem compare_state_of_distinct
    {paths : List String}
    (distinct : suite.settings.extensions.clash? = none)
    (found : scan store suite.settings.scanOptions suite.settings.root = .ok paths) :
    (suite.compare.run store).2 =
      ((Compare.compareAll suite.parser suite.settings.compareOptions paths).run store).2 := by
  rw [compare_run_of_distinct distinct found]

end Suite
end Baseline
