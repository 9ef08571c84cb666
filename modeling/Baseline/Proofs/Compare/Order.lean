import Baseline.Proofs.Compare.Twice
import Mathlib.Data.List.Perm.Basic

/-!
# Comparing sources in any order

A comparison reads and writes its source and its own artifacts only.  So in every store
that comparisons of other sources make of one, a source comes out as it does alone, and
leaves the artifacts that it leaves alone (`compareFile_eq_alone`).  A list of sources is
therefore compared with success exactly if each of them is alone
(`compareAll_eq_iff_alone`), and their order makes no difference (`compareAll_perm`).
-/

namespace Baseline

namespace Report

variable {left right : Report}

/-- The counts do not depend on the order of the records. -/
theorem counts_eq_of_perm (perm : left.records.Perm right.records) :
    left.examined = right.examined ∧
      left.passed = right.passed ∧
        left.mismatched = right.mismatched ∧
          left.created = right.created ∧ left.skipped = right.skipped :=
  ⟨perm.length_eq, perm.countP_eq _, perm.countP_eq _, perm.countP_eq _, perm.countP_eq _⟩

end Report

namespace Store

variable {store next : Store}

/-- Without links, what a path leads to depends on the entries of the locations only. -/
theorem Linkless.lookup_eq_of_find?_eq
    (linkless : store.Linkless)
    (nextLinkless : next.Linkless)
    (same : ∀ location, next.find? location = store.find? location)
    (path : String) :
    next.lookup path = store.lookup path := by
  rw [lookup_eq_entryAt, lookup_eq_entryAt, linkless.resolve_eq, nextLinkless.resolve_eq,
    entryAt_eq_of_find?_eq (same _)]

end Store

namespace Compare

variable
  {parser : Parser}
  {options : CompareOptions}
  {paths rest : List String}
  {path target content : String}
  {store current next tidy after last : Store}
  {result : Except RunError Outcome}
  {location : Location}

/-! ## Equal changes -/

/-- Writing one content to one file keeps entries equal. -/
theorem find?_written_eq
    (linkless : store.Linkless)
    (nextLinkless : next.Linkless)
    (same : next.find? location = store.find? location)
    (written : store.writeFile target content = .ok after)
    (nextWritten : next.writeFile target content = .ok last) :
    last.find? location = after.find? location := by
  by_cases here : location = .ofPath target
  · obtain ⟨_, _, rfl⟩ := Store.writeFile_eq_ok_iff.mp written
    obtain ⟨_, _, rfl⟩ := Store.writeFile_eq_ok_iff.mp nextWritten
    rw [here, linkless.resolve_eq, nextLinkless.resolve_eq, Store.find?_put_self,
      Store.find?_put_self]
  · rw [linkless.find?_written written here, nextLinkless.find?_written nextWritten here, same]

/-- Removing one file keeps entries equal. -/
theorem find?_removed_eq
    (wellFormed : store.WellFormed)
    (nextFormed : next.WellFormed)
    (linkless : store.Linkless)
    (nextLinkless : next.Linkless)
    (same : next.find? location = store.find? location)
    (removed : store.removeFile target = .ok after)
    (nextRemoved : next.removeFile target = .ok last) :
    last.find? location = after.find? location := by
  by_cases here : location = .ofPath target
  · obtain ⟨_, _, rfl⟩ := Store.removeFile_eq_ok_iff.mp removed
    obtain ⟨_, _, rfl⟩ := Store.removeFile_eq_ok_iff.mp nextRemoved
    rw [here, linkless.resolve_eq, nextLinkless.resolve_eq, wellFormed.find?_erase_self,
      nextFormed.find?_erase_self]
  · rw [linkless.find?_removed removed here, nextLinkless.find?_removed nextRemoved here, same]

/-- Two stores hold the same artifacts of a source. -/
structure SameArtifacts (options : CompareOptions) (path : String) (store next : Store) :
    Prop where
  /-- The reference is the same. -/
  reference :
    next.find? (.ofPath (options.referencePath path)) =
      store.find? (.ofPath (options.referencePath path))
  /-- The actual artifact is the same. -/
  actual :
    next.find? (.ofPath (options.actualPath path)) =
      store.find? (.ofPath (options.actualPath path))

theorem SameArtifacts.refl (options : CompareOptions) (path : String) (store : Store) :
    SameArtifacts options path store store :=
  ⟨rfl, rfl⟩

theorem SameArtifacts.trans
    (same : SameArtifacts options path store current)
    (sameNext : SameArtifacts options path current next) :
    SameArtifacts options path store next :=
  ⟨sameNext.reference.trans same.reference, sameNext.actual.trans same.actual⟩

/-! ## One source among others -/

/-- Stores that comparisons make of one give the same answers about a source, if they hold
the same artifacts of it. -/
theorem Orderly.mirrors
    (orderly : Orderly options paths current)
    (member : path ∈ paths) :
    Mirrors options path fun store next =>
      Altered options paths current store ∧
        Altered options paths current next ∧ SameArtifacts options path store next where
  linkless := fun ⟨altered, _, _⟩ => altered.linkless
  nextLinkless := fun ⟨_, nextAltered, _⟩ => nextAltered.linkless
  actual := fun ⟨_, _, same⟩ => same.actual
  source := fun ⟨altered, nextAltered, _⟩ =>
    (nextAltered.readSource_eq orderly member).trans (altered.readSource_eq orderly member).symm
  reference := fun ⟨altered, nextAltered, same⟩ =>
    readReference_eq_of_find?_eq altered.linkless nextAltered.linkless same.reference
      options.readMode
  refusal := by
    rintro store next target ⟨altered, nextAltered, _⟩ nonempty artifact
    have refusals := orderly.refusal?_eq member altered nextAltered nonempty
    rcases artifact with rfl | rfl
    · exact refusals.1
    · exact refusals.2
  removed := by
    rintro store next after last ⟨altered, nextAltered, same⟩ removed nextRemoved
    have artifact : IsArtifact options paths (.ofPath (options.actualPath path)) :=
      isArtifact_actual member
    have equal {location : Location} (same : next.find? location = store.find? location) :=
      find?_removed_eq altered.wellFormed nextAltered.wellFormed altered.linkless
        nextAltered.linkless same removed nextRemoved
    exact ⟨altered.removed artifact removed, nextAltered.removed artifact nextRemoved,
      equal same.reference, equal same.actual⟩
  written := by
    rintro store next after last target content ⟨altered, nextAltered, same⟩ artifact written
      nextWritten
    have isArtifact : IsArtifact options paths (.ofPath target) := by
      rcases artifact with rfl | rfl
      · exact isArtifact_reference member
      · exact isArtifact_actual member
    have equal {location : Location} (same : next.find? location = store.find? location) :=
      find?_written_eq altered.linkless nextAltered.linkless same written nextWritten
    exact ⟨altered.written isArtifact written, nextAltered.written isArtifact nextWritten,
      equal same.reference, equal same.actual⟩

/-- Among other sources, a source comes out as it does alone. -/
theorem compareFile_eq_alone
    (orderly : Orderly options paths store)
    (member : path ∈ paths)
    (altered : Altered options paths store current)
    (same : SameArtifacts options path store current) :
    ((compareFile parser options path).run current).1 =
        ((compareFile parser options path).run store).1 ∧
      SameArtifacts options path ((compareFile parser options path).run store).2
        ((compareFile parser options path).run current).2 := by
  obtain ⟨result, after, comparison⟩ := exists_comparison parser options path store
  obtain ⟨last, carried, _, _, sameAfter⟩ := (orderly.mirrors member).comparison
    ⟨.refl orderly.wellFormed orderly.linkless, altered, same⟩ comparison
  rw [comparison.run_eq, carried.run_eq]
  exact ⟨rfl, sameAfter⟩

/-- Comparing a source leaves the artifacts of other ones alone. -/
theorem SameArtifacts.compared
    {other : String}
    (same : SameArtifacts options other store current)
    (orderly : Orderly options paths store)
    (member : path ∈ paths)
    (otherMember : other ∈ paths)
    (unlike : Unlike options path other)
    (linkless : current.Linkless)
    (comparison : Comparison parser options path current result after) :
    SameArtifacts options other store after where
  reference :=
    (comparison.find?_eq linkless (orderly.apart otherMember member)
      fun _ => unlike.1.symm).trans same.reference
  actual :=
    (comparison.find?_eq linkless unlike.2.symm
      fun _ => (orderly.apart member otherMember).symm).trans same.actual

/-! ## All sources -/

/-- The record tells what becomes of the source alone. -/
def TellsAlone (parser : Parser) (options : CompareOptions) (store : Store) (path : String)
    (record : FileRecord) : Prop :=
  record.path = path ∧ ((compareFile parser options path).run store).1 = .ok record.outcome

/-- Nothing that a later comparison reads was changed by earlier ones. -/
structure Untouched (options : CompareOptions) (paths rest : List String)
    (store current : Store) : Prop where
  /-- The sources left are among those compared. -/
  within {path : String} : path ∈ rest → path ∈ paths
  /-- The sources left share no artifacts. -/
  unlike : rest.Pairwise (Unlike options)
  /-- Only artifacts were altered. -/
  altered : Altered options paths store current
  /-- The artifacts of the sources left were not. -/
  same {path : String} : path ∈ rest → SameArtifacts options path store current

theorem Untouched.step
    (untouched : Untouched options paths (path :: rest) store current)
    (orderly : Orderly options paths store)
    (comparison : Comparison parser options path current result after) :
    Untouched options paths rest store after := by
  obtain ⟨unlikeLater, laterUnlike⟩ := List.pairwise_cons.mp untouched.unlike
  have member := untouched.within List.mem_cons_self
  exact {
    within := fun later => untouched.within (List.mem_cons_of_mem _ later)
    unlike := laterUnlike
    altered := untouched.altered.compared member comparison
    same := fun {other} later =>
      (untouched.same (List.mem_cons_of_mem _ later)).compared orderly member
        (untouched.within (List.mem_cons_of_mem _ later)) (unlikeLater other later)
        untouched.altered.linkless comparison }

/-- All sources are compared with success exactly if each of them is alone, and then the
records tell what becomes of them alone. -/
theorem compareAll_eq_iff_alone
    {records : List FileRecord}
    (orderly : Orderly options paths store)
    (untouched : Untouched options paths rest store current) :
    ((compareAll parser options rest).run current).1 = ⟨records, none⟩ ↔
      List.Forall₂ (TellsAlone parser options store) rest records := by
  induction rest generalizing current records with
  | nil =>
      rw [List.forall₂_nil_left_iff]
      change (⟨[], none⟩ : Progress) = ⟨records, none⟩ ↔ _
      rw [Progress.mk.injEq, and_iff_left rfl, eq_comm]
  | cons path rest inductionHypothesis =>
      have member := untouched.within List.mem_cons_self
      have alone : ((compareFile parser options path).run current).1 =
          ((compareFile parser options path).run store).1 :=
        (compareFile_eq_alone orderly member untouched.altered
          (untouched.same List.mem_cons_self)).1
      rw [List.forall₂_cons_left_iff]
      cases ran : (compareFile parser options path).run current with
      | mk result after =>
          rw [ran] at alone
          cases result with
          | error error =>
              rw [compareAll_run_of_error rest ran]
              constructor
              · intro succeeded
                cases (Progress.mk.inj succeeded).2
              · rintro ⟨record, later, ⟨_, succeeds⟩, _⟩
                cases alone.trans succeeds
          | ok outcome =>
              rw [compareAll_run_of_ok rest ran]
              have untouchedLater := untouched.step orderly (compareFile_run_eq_iff.mp ran)
              constructor
              · intro succeeded
                obtain ⟨records_eq, unfailed⟩ := Progress.mk.inj succeeded
                refine ⟨_, _, ⟨rfl, alone.symm⟩, ?_, records_eq.symm⟩
                exact (inductionHypothesis untouchedLater).mp (congrArg (Progress.mk _) unfailed)
              · rintro ⟨record, recordsLater, ⟨rfl, succeeds⟩, tellLater, rfl⟩
                rw [(inductionHypothesis untouchedLater).mpr tellLater]
                rw [Except.ok.inj (alone.trans succeeds)]

/-- If all sources are compared with success, each of them leaves the artifacts that it
leaves alone. -/
theorem sameArtifacts_of_compareAll
    (orderly : Orderly options paths store)
    (untouched : Untouched options paths rest store current)
    (unfailed : ((compareAll parser options rest).run current).1.error? = none)
    (member : path ∈ rest) :
    SameArtifacts options path ((compareFile parser options path).run store).2
      ((compareAll parser options rest).run current).2 := by
  induction rest generalizing current with
  | nil => cases member
  | cons first rest inductionHypothesis =>
      cases ran : (compareFile parser options first).run current with
      | mk result after =>
          cases result with
          | error error =>
              rw [compareAll_run_of_error rest ran] at unfailed
              cases unfailed
          | ok outcome =>
              have comparison := compareFile_run_eq_iff.mp ran
              have untouchedLater := untouched.step orderly comparison
              rw [compareAll_run_of_ok rest ran] at unfailed ⊢
              rcases List.mem_cons.mp member with rfl | later
              · -- The sources compared later leave the artifacts of this one alone.
                have firstMember := untouched.within List.mem_cons_self
                have unlikeLater := (List.pairwise_cons.mp untouched.unlike).1
                have afterAltered := untouchedLater.altered
                have alone : SameArtifacts options path
                    ((compareFile parser options path).run store).2
                    ((compareFile parser options path).run current).2 :=
                  (compareFile_eq_alone orderly firstMember untouched.altered
                    (untouched.same List.mem_cons_self)).2
                rw [ran] at alone
                exact alone.trans ⟨
                  compareAll_find?_eq afterAltered.wellFormed afterAltered.linkless
                    (orderly.reference_kept firstMember (fun _ => untouchedLater.within)
                      unlikeLater),
                  compareAll_find?_eq afterAltered.wellFormed afterAltered.linkless
                    (orderly.actual_kept firstMember (fun _ => untouchedLater.within)
                      unlikeLater)⟩
              · exact inductionHypothesis untouchedLater unfailed later

/-! ## Any order -/

theorem Unlike.symm {left right : String} (unlike : Unlike options left right) :
    Unlike options right left :=
  ⟨unlike.1.symm, unlike.2.symm⟩

/-- In any order the sources are compared with success and the same records, and leave the
same entries. -/
theorem Orderly.perm
    {shuffled : List String}
    {records : List FileRecord}
    (orderly : Orderly options paths store)
    (perm : shuffled.Perm paths)
    (succeeds : ((compareAll parser options paths).run store).1 = ⟨records, none⟩) :
    ∃ others,
      ((compareAll parser options shuffled).run store).1 = ⟨others, none⟩ ∧
        others.Perm records ∧
          ∀ location,
            ((compareAll parser options shuffled).run store).2.find? location =
              ((compareAll parser options paths).run store).2.find? location := by
  have untouched : Untouched options paths paths store store := {
    within := id
    unlike := orderly.unlike
    altered := .refl orderly.wellFormed orderly.linkless
    same := fun _ => .refl _ _ _ }
  have shuffledUntouched : Untouched options paths shuffled store store := {
    within := perm.mem_iff.mp
    unlike := perm.symm.pairwise orderly.unlike Unlike.symm
    altered := untouched.altered
    same := fun _ => .refl _ _ _ }
  obtain ⟨others, tell, othersPerm⟩ := List.perm_comp_forall₂ perm
    ((compareAll_eq_iff_alone orderly untouched).mp succeeds)
  have shuffledSucceeds := (compareAll_eq_iff_alone orderly shuffledUntouched).mpr tell
  refine ⟨others, shuffledSucceeds, othersPerm, fun location => ?_⟩
  by_cases artifact : IsArtifact options paths location
  · obtain ⟨path, member, here⟩ := artifact
    have left := sameArtifacts_of_compareAll orderly shuffledUntouched
      (congrArg Progress.error? shuffledSucceeds) (perm.mem_iff.mpr member)
    have right := sameArtifacts_of_compareAll orderly untouched
      (congrArg Progress.error? succeeds) member
    rcases here with isReference | isActual
    · rw [isReference]
      exact left.reference.trans right.reference.symm
    · rw [isActual]
      exact left.actual.trans right.actual.symm
  · have shuffledArtifact : ¬IsArtifact options shuffled location := by
      rintro ⟨path, member, here⟩
      exact artifact ⟨path, perm.mem_iff.mp member, here⟩
    have left : ((compareAll parser options shuffled).run store).2.find? location =
        store.find? location :=
      compareAll_find?_eq orderly.wellFormed orderly.linkless shuffledArtifact
    have right : ((compareAll parser options paths).run store).2.find? location =
        store.find? location :=
      compareAll_find?_eq orderly.wellFormed orderly.linkless artifact
    exact left.trans right.symm

/-- Sources whose files are all different can be compared in any order: if all are compared
with success in one order, they are in every other one, each with the same outcome, and the
same is left at every path. -/
theorem compareAll_perm
    {writers : List Store.Writer}
    {shuffled : List String}
    {report : Report}
    (reachable : Store.Reachable store writers)
    (linkless : store.Linkless)
    (housed : store.Housed)
    (sourceSlashless : Extensions.Slashless options.extensions.source)
    (referenceSlashless : Extensions.Slashless options.extensions.reference)
    (actualSlashless : Extensions.Slashless options.extensions.actual)
    (distinct : ((paths.flatMap options.filesOf).map store.resolve).Nodup)
    (perm : shuffled.Perm paths)
    (succeeds : ((compareAll parser options paths).run store).1.report = .ok report) :
    let first := (compareAll parser options paths).run store
    let second := (compareAll parser options shuffled).run store
    ∃ other,
      second.1.report = .ok other ∧
        report.records.map FileRecord.path = paths ∧
        other.records.map FileRecord.path = shuffled ∧
        other.records.Perm report.records ∧
        (other.examined = report.examined ∧
          other.passed = report.passed ∧
            other.mismatched = report.mismatched ∧
              other.created = report.created ∧ other.skipped = report.skipped) ∧
        ∀ path, second.2.lookup path = first.2.lookup path ∧
          second.2.read path = first.2.read path := by
  intro first second
  rw [funext linkless.resolve_eq] at distinct
  have orderly : Orderly options paths store :=
    Distinct.orderly distinct reachable.wellFormed linkless housed sourceSlashless
      referenceSlashless actualSlashless
  have untouched : Altered options paths store store := .refl reachable.wellFormed linkless
  obtain ⟨unfailed, rfl⟩ := Progress.report_eq_ok_iff.mp succeeds
  have firstSucceeds : ((compareAll parser options paths).run store).1 =
      ⟨first.1.records, none⟩ :=
    congrArg (Progress.mk first.1.records) unfailed
  obtain ⟨others, shuffledSucceeds, othersPerm, same⟩ := orderly.perm perm firstSucceeds
  have paths_eq {paths : List String} {records : List FileRecord}
      (all : ((compareAll parser options paths).run store).1 = ⟨records, none⟩) :
      records.map FileRecord.path = paths :=
    (compareAll_eq_none_iff.mp (Prod.ext all rfl)).1
  have firstLinkless : first.2.Linkless := untouched.comparedAll.linkless
  have secondLinkless : second.2.Linkless :=
    compareAll_preserves Store.Linkless
      (fun _ _ _ _ _ comparison linkless => comparison.linkless linkless) linkless
  refine ⟨⟨others⟩, ?_, paths_eq firstSucceeds, paths_eq shuffledSucceeds,
    othersPerm, Report.counts_eq_of_perm othersPerm, fun path => ⟨?_, ?_⟩⟩
  · exact Progress.report_eq_ok_iff.mpr
      ⟨congrArg Progress.error? shuffledSucceeds,
        congrArg (fun progress : Progress => (⟨progress.records⟩ : Report)) shuffledSucceeds.symm⟩
  · exact firstLinkless.lookup_eq_of_find?_eq secondLinkless same path
  · exact firstLinkless.read_eq secondLinkless (same _)

/-- In either order one reference is created and the other source is skipped. -/
theorem compareAll_unrecorded_perm :
    let first := (compareAll .lineList {} ["t/a.js", "t/b.js"]).run unrecorded
    let second := (compareAll .lineList {} ["t/b.js", "t/a.js"]).run unrecorded
    first.1.report = .ok ⟨[⟨"t/a.js", .created "t/a.tree"⟩, ⟨"t/b.js", .skipped⟩]⟩ ∧
      (∃ other, second.1.report = .ok other ∧ other.created = 1 ∧ other.skipped = 1) ∧
        ∀ path, second.2.read path = first.2.read path := by
  intro first second
  have reachable : Store.Reachable unrecorded [] :=
    .withFile _ _ (.withFile _ _ (.withFile _ _ (.empty _)))
  have reported : first.1.report =
      .ok ⟨[⟨"t/a.js", .created "t/a.tree"⟩, ⟨"t/b.js", .skipped⟩]⟩ := by
    decide +kernel
  obtain ⟨other, otherReported, _, _, _, counts, same⟩ := compareAll_perm reachable
    (by decide +kernel) (by decide +kernel) (by decide) (by decide) (by decide) (by decide +kernel)
    (List.Perm.swap "t/a.js" "t/b.js" []) reported
  exact ⟨reported, ⟨other, otherReported, counts.2.2.2.1, counts.2.2.2.2⟩,
    fun path => (same path).2⟩

end Compare
end Baseline
