import Baseline.Proofs.Compare.Again
import Baseline.Proofs.Compare.History
import Baseline.Proofs.Compare.Separation
import Mathlib.Data.List.ProdSigma

/-!
# Comparing a list of sources twice

If the files of all sources lie at different locations (`Distinct`) and every entry lies
in a directory, comparisons of the sources do not disturb each other, so comparing the
list twice repeats the first report, or the first error (`compareAll_twice`).
-/

namespace Baseline

/-- The path of the file that has a role for a source. -/
def CompareOptions.fileOf (options : CompareOptions) (path : String) : FileRole → String
  | .source => path
  | .reference => options.referencePath path
  | .actual => options.actualPath path

/-- All roles. -/
def FileRole.all : List FileRole :=
  [.source, .reference, .actual]

theorem FileRole.mem_all (role : FileRole) : role ∈ all := by
  cases role <;> decide

/-- The paths of a source, of its reference and of its actual artifact. -/
def CompareOptions.filesOf (options : CompareOptions) (path : String) : List String :=
  FileRole.all.map (options.fileOf path)

namespace Compare

variable
  {parser : Parser}
  {options : CompareOptions}
  {paths : List String}
  {path : String}
  {store : Store}

/-! ## Lists of sources whose files are all different -/

/-- The files of the sources lie at different locations. -/
def Distinct (options : CompareOptions) (paths : List String) : Prop :=
  ((paths.flatMap options.filesOf).map Location.ofPath).Nodup

theorem Distinct.inj
    {left right : String}
    (leftRole rightRole : FileRole)
    (distinct : Distinct options paths)
    (leftMember : left ∈ paths)
    (rightMember : right ∈ paths)
    (same : Location.ofPath (options.fileOf left leftRole) =
      .ofPath (options.fileOf right rightRole)) :
    left = right ∧ leftRole = rightRole := by
  have files_eq : (paths.flatMap options.filesOf).map Location.ofPath =
      (paths.product FileRole.all).map fun file => .ofPath (options.fileOf file.1 file.2) := by
    simp only [List.product, List.map_flatMap, List.map_map, CompareOptions.filesOf]
    rfl
  rw [Distinct, files_eq] at distinct
  have inProduct {path : String} (role : FileRole) (member : path ∈ paths) :
      (path, role) ∈ paths.product FileRole.all :=
    List.mem_product.mpr ⟨member, FileRole.mem_all role⟩
  exact Prod.mk.inj (List.inj_on_of_nodup_map distinct (inProduct leftRole leftMember)
    (inProduct rightRole rightMember) same)

theorem Distinct.nodup (distinct : Distinct options paths) : paths.Nodup := by
  rw [Distinct, List.map_flatMap, List.nodup_flatMap] at distinct
  refine distinct.2.imp fun disjoint same => ?_
  subst same
  exact disjoint List.mem_cons_self List.mem_cons_self

theorem Distinct.source
    (distinct : Distinct options paths)
    (member : path ∈ paths) :
    ¬IsArtifact options paths (.ofPath path) := by
  rintro ⟨other, otherMember, same | same⟩
  · cases (distinct.inj .source .reference member otherMember same).2
  · cases (distinct.inj .source .actual member otherMember same).2

theorem Distinct.apart
    {left right : String}
    (distinct : Distinct options paths)
    (leftMember : left ∈ paths)
    (rightMember : right ∈ paths) :
    Location.ofPath (options.referencePath left) ≠ .ofPath (options.actualPath right) := by
  intro same
  cases (distinct.inj .reference .actual leftMember rightMember same).2

theorem Distinct.unlike (distinct : Distinct options paths) :
    paths.Pairwise (Unlike options) := by
  refine distinct.nodup.imp_of_mem ?_
  intro left right leftMember rightMember different
  refine ⟨fun same => ?_, fun same => ?_⟩
  · exact different (distinct.inj .reference .reference leftMember rightMember same).1
  · exact different (distinct.inj .actual .actual leftMember rightMember same).1

/-- With extensions without slashes, sources whose files are all different do not disturb
each other if every entry lies in a directory. -/
theorem Distinct.orderly
    (distinct : Distinct options paths)
    (wellFormed : store.WellFormed)
    (linkless : store.Linkless)
    (housed : store.Housed)
    (sourceSlashless : Extensions.Slashless options.extensions.source)
    (referenceSlashless : Extensions.Slashless options.extensions.reference)
    (actualSlashless : Extensions.Slashless options.extensions.actual) :
    Orderly options paths store where
  wellFormed := wellFormed
  linkless := linkless
  source := distinct.source
  apart := distinct.apart
  unlike := distinct.unlike
  steady {path} member there := by
    obtain ⟨content, held⟩ := Option.ne_none_iff_exists'.mp there
    rw [Store.read_eq_some_iff, linkless.resolve_eq] at held
    have notReference : Location.ofPath (options.referencePath path) ≠ .ofPath path := by
      intro same
      cases (distinct.inj .reference .source member member same).2
    have notActual : Location.ofPath (options.actualPath path) ≠ .ofPath path := by
      intro same
      cases (distinct.inj .actual .source member member same).2
    constructor
    · obtain ⟨directory, sourceAt, artifactAt⟩ :=
        Path.exists_isAt_artifact path sourceSlashless referenceSlashless
      exact steady_of_isAt (distinct.source member) notReference housed held sourceAt artifactAt
    · obtain ⟨directory, sourceAt, artifactAt⟩ :=
        Path.exists_isAt_artifact path sourceSlashless actualSlashless
      exact steady_of_isAt (distinct.source member) notActual housed held sourceAt artifactAt

/-! ## Whole lists twice -/

/-- Comparing sources whose files are all different once more repeats every outcome, or the
error of the same source, but for the references that are now met, and changes no file.
An actual artifact that would be removed at the root itself must not find a file there. -/
theorem compareAll_twice
    {writers : List Store.Writer}
    (parses : ∀ text value, parser.parse text = .value value → value.WellFormed)
    (reachable : Store.Reachable store writers)
    (linkless : store.Linkless)
    (housed : store.Housed)
    (sourceSlashless : Extensions.Slashless options.extensions.source)
    (referenceSlashless : Extensions.Slashless options.extensions.reference)
    (actualSlashless : Extensions.Slashless options.extensions.actual)
    (distinct : ((paths.flatMap options.filesOf).map store.resolve).Nodup)
    (rootless : ∀ path ∈ paths, Rootless options path store) :
    let first := (compareAll parser options paths).run store
    let second := (compareAll parser options paths).run first.2
    (∀ report, first.1.report = .ok report →
        report.records.map FileRecord.path = paths ∧
          second.1.report = .ok report.again ∧ report.again.created = 0) ∧
      (∀ error, first.1.report = .error error →
        second.1.report = .error error ∧
          ∃ path rest,
            paths = first.1.records.map FileRecord.path ++ path :: rest ∧
              paths = second.1.records.map FileRecord.path ++ path :: rest) ∧
        ∀ path, second.2.read path = first.2.read path := by
  intro first second
  have wellFormed := reachable.wellFormed
  rw [funext linkless.resolve_eq] at distinct
  have orderly : Orderly options paths store :=
    Distinct.orderly distinct wellFormed linkless housed sourceSlashless referenceSlashless
      actualSlashless
  have untouched : Altered options paths store store := .refl wellFormed linkless
  obtain ⟨repeated, kept⟩ := compareAll_again parses orderly (fun _ member => member)
    orderly.unlike untouched untouched.comparedAll rootless fun _ => rfl
  change second.1 = first.1.again at repeated
  obtain ⟨left, paths_eq, left_iff⟩ := exists_left_of_compareAll parser options paths store
  change paths = first.1.records.map FileRecord.path ++ left at paths_eq
  refine ⟨fun report reported => ?_, fun error reported => ?_, fun path => ?_⟩
  · obtain ⟨unfailed, rfl⟩ := Progress.report_eq_ok_iff.mp reported
    rw [left_iff.mpr unfailed, List.append_nil] at paths_eq
    refine ⟨paths_eq.symm, ?_, Report.created_again _⟩
    rw [repeated, Progress.report_again, reported]
    rfl
  · have failed := Progress.report_eq_error_iff.mp reported
    obtain ⟨path, rest, rfl⟩ := List.exists_cons_of_ne_nil
      (mt left_iff.mp (Option.ne_none_iff_exists'.mpr ⟨error, failed⟩))
    refine ⟨?_, path, rest, paths_eq, ?_⟩
    · rw [repeated, Progress.report_again, reported]
      rfl
    · rw [repeated, Progress.paths_again]
      exact paths_eq
  · exact untouched.comparedAll.linkless.read_eq untouched.comparedAll.comparedAll.linkless (kept _)

/-- A store with a source to record, and an empty source that was reported before. -/
def unrecorded : Store :=
  ((Store.empty.withFile "t/a.js" "x").withFile "t/b.js" "").withFile "t/b.actual" "stale"

/-- The source that gets a reference passes when it is compared again; the other one is
skipped twice. -/
theorem compareAll_unrecorded_twice :
    let first := (compareAll .lineList {} ["t/a.js", "t/b.js"]).run unrecorded
    let second := (compareAll .lineList {} ["t/a.js", "t/b.js"]).run first.2
    first.1.report = .ok ⟨[⟨"t/a.js", .created "t/a.tree"⟩, ⟨"t/b.js", .skipped⟩]⟩ ∧
      second.1.report = .ok ⟨[⟨"t/a.js", .passed⟩, ⟨"t/b.js", .skipped⟩]⟩ ∧
        ∀ path, second.2.read path = first.2.read path := by
  intro first second
  have reachable : Store.Reachable unrecorded [] :=
    .withFile _ _ (.withFile _ _ (.withFile _ _ (.empty _)))
  have rootless : ∀ path ∈ ["t/a.js", "t/b.js"], Rootless {} path unrecorded := by
    intro path member _ _
    decide +kernel
  have reported : first.1.report =
      .ok ⟨[⟨"t/a.js", .created "t/a.tree"⟩, ⟨"t/b.js", .skipped⟩]⟩ := by
    decide +kernel
  obtain ⟨repeated, _, kept⟩ := compareAll_twice (fun _ _ => lineList_wellFormed) reachable
    (by decide +kernel) (by decide +kernel) (by decide) (by decide) (by decide) (by decide +kernel)
    rootless
  exact ⟨reported, (repeated _ reported).2.1, kept⟩

/-- A store with a file at the root itself. -/
def rootFile : Store :=
  Store.empty.withFile "" "x"

/-- The options with an empty extension for actual artifacts. -/
def rootOptions : CompareOptions where
  extensions := { actual := "" }

/-- The root always passes for a directory, so a file there is removed only once. -/
theorem compareAll_rootFile_differs :
    Store.Reachable rootFile [] ∧ rootFile.Linkless ∧ rootFile.Housed ∧
      rootOptions.extensions.clash? = none ∧
      (∀ extension ∈ [rootOptions.extensions.source, rootOptions.extensions.reference,
        rootOptions.extensions.actual], Extensions.Slashless extension) ∧
      (([".js"].flatMap rootOptions.filesOf).map rootFile.resolve).Nodup ∧
      ((compareAll .lineList rootOptions [".js"]).run rootFile).1.report =
        .ok ⟨[⟨".js", .skipped⟩]⟩ ∧
      ((compareAll .lineList rootOptions [".js"]).run
          ((compareAll .lineList rootOptions [".js"]).run rootFile).2).1.report =
        .error (.file "." (.noEntry ".")) :=
  ⟨.withFile _ _ (.empty _), by decide +kernel, by decide +kernel, by decide, by decide,
    by decide +kernel, by decide +kernel, by decide +kernel⟩

end Compare
end Baseline
