import Baseline.Proofs.Compare.Altered
import Baseline.Proofs.Compare.Mirror

/-!
# Comparing sources again

When nothing has changed since a source was compared, comparing it again makes nothing
new: a reference that was created is met, and everything else comes out as before.  For
one source this is a case analysis of its first comparison (`Comparison.again`).  A run
repeats it source by source, because the sources compared later leave the artifacts of
the earlier ones alone (`compareAll_again`).
-/

namespace Baseline

/-- The outcome when nothing has changed since: a reference that was created is met. -/
def Outcome.again : Outcome → Outcome
  | .created _ => .passed
  | outcome => outcome

/-- The record of a source when nothing has changed since. -/
def FileRecord.again (record : FileRecord) : FileRecord :=
  { record with outcome := record.outcome.again }

namespace FileRecord

variable (record : FileRecord)

theorem isCreated_again : record.again.isCreated = false := by
  obtain ⟨path, outcome⟩ := record
  cases outcome <;> rfl

theorem isSkipped_again : record.again.isSkipped = record.isSkipped := by
  obtain ⟨path, outcome⟩ := record
  cases outcome <;> rfl

theorem isMismatched_again : record.again.isMismatched = record.isMismatched := by
  obtain ⟨path, outcome⟩ := record
  cases outcome <;> rfl

end FileRecord

/-- The report of a run when nothing has changed since. -/
def Report.again (report : Report) : Report :=
  ⟨report.records.map FileRecord.again⟩

namespace Report

variable (report : Report)

@[simp] theorem examined_again : report.again.examined = report.examined :=
  List.length_map _

/-- The sources whose references were created pass. -/
@[simp] theorem passed_again : report.again.passed = report.passed + report.created := by
  obtain ⟨records⟩ := report
  simp only [passed, created, again]
  induction records with
  | nil => rfl
  | cons record rest inductionHypothesis =>
      obtain ⟨path, outcome⟩ := record
      rw [List.map_cons, List.countP_cons, List.countP_cons, List.countP_cons, inductionHypothesis]
      cases outcome <;>
        simp [FileRecord.again, Outcome.again, FileRecord.isPassed, FileRecord.isCreated] <;> omega

@[simp] theorem created_again : report.again.created = 0 := by
  rw [created, again, List.countP_map, List.countP_eq_zero]
  intro record _
  rw [Function.comp_apply, FileRecord.isCreated_again]
  exact Bool.false_ne_true

@[simp] theorem skipped_again : report.again.skipped = report.skipped := by
  rw [skipped, again, List.countP_map]
  exact List.countP_congr fun record _ => by
    rw [Function.comp_apply, FileRecord.isSkipped_again]

@[simp] theorem mismatchedPaths_again : report.again.mismatchedPaths = report.mismatchedPaths := by
  rw [mismatchedPaths, again, List.filter_map, List.map_map]
  have same : FileRecord.isMismatched ∘ FileRecord.again = FileRecord.isMismatched :=
    funext FileRecord.isMismatched_again
  rw [same]
  rfl

end Report

namespace Compare

/-- What becomes of comparing the sources when nothing has changed since. -/
def Progress.again (progress : Progress) : Progress :=
  { progress with records := progress.records.map FileRecord.again }

theorem Progress.report_again (progress : Progress) :
    progress.again.report = progress.report.map Report.again := by
  obtain ⟨records, _ | error⟩ := progress <;> rfl

theorem Progress.paths_again (progress : Progress) :
    progress.again.records.map FileRecord.path = progress.records.map FileRecord.path :=
  List.map_map

theorem Progress.report_eq_ok_iff {progress : Progress} {report : Report} :
    progress.report = .ok report ↔ progress.error? = none ∧ report = ⟨progress.records⟩ := by
  obtain ⟨records, _ | error⟩ := progress <;> simp [Progress.report, eq_comm]

theorem Progress.report_eq_error_iff {progress : Progress} {error : RunError} :
    progress.report = .error error ↔ progress.error? = some error := by
  obtain ⟨records, _ | error⟩ := progress <;> simp [Progress.report]

/-- If actual artifacts of earlier runs are removed and the one of the source would lie at
the root itself, no file is there. -/
def Rootless (options : CompareOptions) (path : String) (store : Store) : Prop :=
  options.cleanStaleActuals → Location.ofPath (options.actualPath path) = [] →
    store.read "" = none

variable
  {parser : Parser}
  {options : CompareOptions}
  {paths : List String}
  {path : String}
  {store current tidy after next : Store}
  {result : Except RunError Outcome}

/-! ## Tidying again -/

/-- Once an artifact was removed, there is nothing left to remove. -/
theorem withoutStale_again
    (wellFormed : store.WellFormed)
    (linkless : store.Linkless)
    (afterLinkless : after.Linkless)
    (rootless : Location.ofPath path = [] → store.read "" = none)
    (removed : withoutStale store path = .ok tidy)
    (same : after.find? (.ofPath path) = tidy.find? (.ofPath path)) :
    withoutStale after path = .ok after := by
  apply withoutStale_of_absent
  unfold withoutStale at removed
  split at removed
  next =>
      split at removed
      next erased removing =>
          obtain rfl := Except.ok.inj removed
          obtain ⟨content, held, rfl⟩ := Store.removeFile_eq_ok_iff.mp removing
          rw [Store.present_eq_false_iff, afterLinkless.resolve_eq]
          constructor
          · intro root
            have atRoot : store.read path = store.read "" := by
              rw [Store.read, Store.read, linkless.resolve_eq, linkless.resolve_eq, root,
                Location.ofPath_empty]
            rw [atRoot, rootless root] at held
            cases held
          · rw [same, linkless.resolve_eq, wellFormed.find?_erase_self]
      next => cases removed
  next absent =>
      obtain rfl := Except.ok.inj removed
      rw [linkless.present_eq afterLinkless same]
      exact Bool.eq_false_iff.mpr absent

theorem tidied_again
    (wellFormed : store.WellFormed)
    (linkless : store.Linkless)
    (afterLinkless : after.Linkless)
    (rootless : Rootless options path store)
    (removed : tidied options path store = .ok tidy)
    (same : after.find? (.ofPath (options.actualPath path)) =
      tidy.find? (.ofPath (options.actualPath path))) :
    tidied options path after = .ok after := by
  unfold tidied at removed ⊢
  split at removed
  next clean =>
      rw [if_pos clean]
      exact withoutStale_again wellFormed linkless afterLinkless (rootless clean) removed same
  next unclean => rw [if_neg unclean]

/-- An actual artifact can be tidied away. -/
theorem exists_tidied_of_read
    {content : String}
    (held : store.read (options.actualPath path) = some content) :
    ∃ tidy, tidied options path store = .ok tidy := by
  by_cases clean : options.cleanStaleActuals
  · exact ⟨_, tidied_of_removed clean (Store.removeFile_eq_ok_iff.mpr ⟨content, held, rfl⟩)⟩
  · exact ⟨store, if_neg clean⟩

/-- Tidying away an actual artifact and writing it anew changes no entry. -/
theorem find?_rewritten
    {content : String}
    (linkless : store.Linkless)
    (removed : tidied options path store = .ok tidy)
    (held : store.read (options.actualPath path) = some content)
    (written : tidy.writeFile (options.actualPath path) content = .ok after)
    (location : Location) :
    after.find? location = store.find? location := by
  have tidyLinkless := tidied_linkless linkless removed
  by_cases same : location = .ofPath (options.actualPath path)
  · have rewritten := tidyLinkless.read_written written
    rw [Store.read_eq_some_iff, (tidyLinkless.written written).resolve_eq] at rewritten
    rw [Store.read_eq_some_iff, linkless.resolve_eq] at held
    rw [same, rewritten, held]
  · rw [tidyLinkless.find?_written written same, tidied_find? linkless removed same]

/-! ## One source again -/

/-- What settling a source leaves as its actual artifact: what was there, or a file. -/
theorem Settlement.actual_eq_or
    (settlement : Settlement parser options path store result after)
    (linkless : store.Linkless)
    (apart : Location.ofPath (options.referencePath path) ≠ .ofPath (options.actualPath path)) :
    after.find? (.ofPath (options.actualPath path)) =
        store.find? (.ofPath (options.actualPath path)) ∨
      ∃ content, after.read (options.actualPath path) = some content := by
  rcases settlement.after_eq with rfl | ⟨_, _, content, written⟩ | ⟨_, content, written⟩
  · exact .inl rfl
  · exact .inl (linkless.find?_written written apart.symm)
  · exact .inr ⟨content, linkless.read_written written⟩

/-- A source is settled as before in a store that gives the same answers and holds the
reference that was left; if the actual artifact is written, its content is the same. -/
theorem Settlement.again
    (parses : ∀ text value, parser.parse text = .value value → value.WellFormed)
    (settlement : Settlement parser options path store result after)
    (linkless : store.Linkless)
    (nextLinkless : next.Linkless)
    (apart : Location.ofPath (options.referencePath path) ≠ .ofPath (options.actualPath path))
    (source : readSource next options.readMode path = readSource store options.readMode path)
    (refusals : readSource store options.readMode path ≠ "" →
      next.refusal? (options.referencePath path) = store.refusal? (options.referencePath path) ∧
        next.refusal? (options.actualPath path) = store.refusal? (options.actualPath path))
    (reference : next.find? (.ofPath (options.referencePath path)) =
      after.find? (.ofPath (options.referencePath path))) :
    ∃ last,
      Settlement parser options path next (result.map Outcome.again) last ∧
        ((last = next ∧
            after.find? (.ofPath (options.actualPath path)) =
              store.find? (.ofPath (options.actualPath path))) ∨
          ∃ content,
            after.read (options.actualPath path) = some content ∧
              next.writeFile (options.actualPath path) content = .ok last) := by
  have recalled (same : after.find? (.ofPath (options.referencePath path)) =
      store.find? (.ofPath (options.referencePath path))) :
      readReference next options.readMode (options.referencePath path) =
        readReference store options.readMode (options.referencePath path) :=
    readReference_eq_of_find?_eq linkless nextLinkless (reference.trans same) options.readMode
  cases settlement with
  | skipped empty => exact ⟨next, .skipped (source.trans empty), .inl ⟨rfl, rfl⟩⟩
  | refused nonempty refusal =>
      exact ⟨next, .refused (source ▸ nonempty) (source ▸ refusal), .inl ⟨rfl, rfl⟩⟩
  | unreadable rendered unread =>
      exact ⟨next, .unreadable (rendered.again source) ((recalled rfl).trans unread),
        .inl ⟨rfl, rfl⟩⟩
  | created rendered missing written =>
      obtain ⟨value, parsed, rfl⟩ := rendered.renders
      have held : next.read (options.referencePath path) =
          some (value.canonicalize options.indentWidth ++ "\n") := by
        rw [(linkless.written written).read_eq nextLinkless reference,
          linkless.read_written written]
      exact ⟨next, .passed (rendered.again source)
        (readReference_of_record (parses _ value parsed) held),
        .inl ⟨rfl, linkless.find?_written written apart.symm⟩⟩
  | uncreated rendered missing unwritten =>
      have refused := Store.writeFile_eq_error_iff.mp unwritten
      rw [← (refusals rendered.nonempty).1] at refused
      exact ⟨next, .uncreated (rendered.again source) ((recalled rfl).trans missing)
        (Store.writeFile_eq_error_iff.mpr refused), .inl ⟨rfl, rfl⟩⟩
  | passed rendered equal =>
      exact ⟨next, .passed (rendered.again source) ((recalled rfl).trans equal), .inl ⟨rfl, rfl⟩⟩
  | mismatched rendered recorded different written =>
      have free := Store.exists_writeFile_eq_ok_iff.mp ⟨_, written⟩
      rw [← (refusals rendered.nonempty).2] at free
      obtain ⟨last, rewritten⟩ := Store.exists_writeFile_eq_ok_iff.mpr free
      have same := linkless.find?_written written apart
      exact ⟨last, .mismatched (rendered.again source) ((recalled same).trans recorded) different
        rewritten, .inr ⟨_, linkless.read_written written, rewritten⟩⟩
  | unreported rendered recorded different unwritten =>
      have refused := Store.writeFile_eq_error_iff.mp unwritten
      rw [← (refusals rendered.nonempty).2] at refused
      exact ⟨next, .unreported (rendered.again source) ((recalled rfl).trans recorded) different
        (Store.writeFile_eq_error_iff.mpr refused), .inl ⟨rfl, rfl⟩⟩

/-- A source comes out as before in a store that holds the artifacts that were left, and
this changes no entry. -/
theorem Comparison.again
    (parses : ∀ text value, parser.parse text = .value value → value.WellFormed)
    (orderly : Orderly options paths store)
    (member : path ∈ paths)
    (altered : Altered options paths store current)
    (nextAltered : Altered options paths store next)
    (rootless : Rootless options path current)
    (comparison : Comparison parser options path current result after)
    (reference : next.find? (.ofPath (options.referencePath path)) =
      after.find? (.ofPath (options.referencePath path)))
    (actual : next.find? (.ofPath (options.actualPath path)) =
      after.find? (.ofPath (options.actualPath path))) :
    ∃ last,
      Comparison parser options path next (result.map Outcome.again) last ∧
        ∀ location, last.find? location = next.find? location := by
  have apart := orderly.apart member member
  have afterLinkless := comparison.linkless altered.linkless
  cases comparison with
  | clash clashing => exact ⟨next, .clash clashing, fun _ => rfl⟩
  | untidy distinct stuck =>
      have stuckAgain := tidied_eq_error altered.linkless nextAltered.linkless actual stuck
      exact ⟨next, .untidy distinct stuckAgain, fun _ => rfl⟩
  | @settled tidy _ _ distinct removed settlement =>
      have tidyAltered := altered.tidied member removed
      have unchanged (same : after.find? (.ofPath (options.actualPath path)) =
          tidy.find? (.ofPath (options.actualPath path))) :
          tidied options path next = .ok next :=
        tidied_again altered.wellFormed altered.linkless nextAltered.linkless rootless removed
          (actual.trans same)
      have unread {content : String}
          (held : after.read (options.actualPath path) = some content) :
          next.read (options.actualPath path) = some content := by
        rw [afterLinkless.read_eq nextAltered.linkless actual, held]
      obtain ⟨prepared, removedAgain⟩ : ∃ prepared, tidied options path next = .ok prepared := by
        rcases settlement.actual_eq_or tidyAltered.linkless apart with same | ⟨content, held⟩
        · exact ⟨next, unchanged same⟩
        · exact exists_tidied_of_read (unread held)
      have preparedAltered := nextAltered.tidied member removedAgain
      have source : readSource prepared options.readMode path =
          readSource tidy options.readMode path := by
        rw [preparedAltered.readSource_eq orderly member, tidyAltered.readSource_eq orderly member]
      have kept := tidied_find? nextAltered.linkless removedAgain apart
      obtain ⟨last, settledAgain, ⟨rfl, same⟩ | ⟨content, held, rewritten⟩⟩ :=
        settlement.again parses tidyAltered.linkless preparedAltered.linkless apart source
          (orderly.refusal?_eq member tidyAltered preparedAltered) (kept.trans reference)
      · -- Nothing is written, so nothing was tidied away either.
        rw [unchanged same] at removedAgain
        obtain rfl := Except.ok.inj removedAgain
        exact ⟨next, .settled distinct (unchanged same) settledAgain, fun _ => rfl⟩
      · refine ⟨last, .settled distinct removedAgain settledAgain, fun location => ?_⟩
        exact find?_rewritten nextAltered.linkless removedAgain (unread held) rewritten location

/-! ## All sources again -/

/-- If the artifact of one source would lie at the root, comparing another one does not put
a file there. -/
theorem Rootless.compared
    {other : String}
    (rootless : Rootless options other store)
    (linkless : store.Linkless)
    (actuals : Location.ofPath (options.actualPath other) ≠ .ofPath (options.actualPath path))
    (apart : Location.ofPath (options.referencePath path) ≠ .ofPath (options.actualPath other))
    (comparison : Comparison parser options path store result after) :
    Rootless options other after := by
  intro clean root
  have same : after.find? (.ofPath "") = store.find? (.ofPath "") := by
    rw [Location.ofPath_empty, ← root]
    exact comparison.find?_eq linkless actuals fun _ => apart.symm
  rw [linkless.read_eq (comparison.linkless linkless) same]
  exact rootless clean root

/-- Comparing sources leaves everything alone but their artifacts. -/
theorem compareAll_find?_eq
    {location : Location}
    (wellFormed : store.WellFormed)
    (linkless : store.Linkless)
    (kept : ¬IsArtifact options paths location) :
    ((compareAll parser options paths).run store).2.find? location = store.find? location :=
  ((Altered.refl wellFormed linkless).comparedAll).elsewhere kept

/-- Comparing some of the sources again, when nothing has changed since they were compared,
repeats their outcomes and changes no entry. -/
theorem compareAll_again
    {rest : List String}
    (parses : ∀ text value, parser.parse text = .value value → value.WellFormed)
    (orderly : Orderly options paths store)
    (within : ∀ path ∈ rest, path ∈ paths)
    (unlike : rest.Pairwise (Unlike options))
    (altered : Altered options paths store current)
    (nextAltered : Altered options paths store next)
    (rootless : ∀ path ∈ rest, Rootless options path current)
    (same : ∀ location,
      next.find? location = ((compareAll parser options rest).run current).2.find? location) :
    ((compareAll parser options rest).run next).1 =
        ((compareAll parser options rest).run current).1.again ∧
      ∀ location,
        ((compareAll parser options rest).run next).2.find? location = next.find? location := by
  induction rest generalizing current next with
  | nil => exact ⟨rfl, fun _ => rfl⟩
  | cons path rest inductionHypothesis =>
      obtain ⟨member, laterWithin⟩ := List.forall_mem_cons.mp within
      obtain ⟨unlikeLater, laterUnlike⟩ := List.pairwise_cons.mp unlike
      obtain ⟨rootlessNow, rootlessLater⟩ := List.forall_mem_cons.mp rootless
      cases ran : (compareFile parser options path).run current with
      | mk result after =>
          have comparison := compareFile_run_eq_iff.mp ran
          have afterAltered := altered.compared member comparison
          cases result with
          | error error =>
              rw [compareAll_run_of_error rest ran] at same ⊢
              obtain ⟨last, again, kept⟩ := comparison.again parses orderly member altered
                nextAltered rootlessNow (same _) (same _)
              rw [compareAll_run_of_error rest again.run_eq]
              exact ⟨rfl, kept⟩
          | ok outcome =>
              rw [compareAll_run_of_ok rest ran] at same ⊢
              -- The sources compared later leave the artifacts of this one alone.
              have settled {location : Location} (kept : ¬IsArtifact options rest location) :
                  next.find? location = after.find? location :=
                (same location).trans
                  (compareAll_find?_eq afterAltered.wellFormed afterAltered.linkless kept)
              obtain ⟨last, again, kept⟩ := comparison.again parses orderly member altered
                nextAltered rootlessNow
                (settled (orderly.reference_kept member laterWithin unlikeLater))
                (settled (orderly.actual_kept member laterWithin unlikeLater))
              rw [compareAll_run_of_ok rest again.run_eq]
              have rootlessAfter : ∀ other ∈ rest, Rootless options other after :=
                fun other later => (rootlessLater other later).compared altered.linkless
                  (unlikeLater other later).2.symm (orderly.apart member (laterWithin other later))
                  comparison
              obtain ⟨repeated, keptLater⟩ := inductionHypothesis laterWithin laterUnlike
                afterAltered (nextAltered.compared member again) rootlessAfter
                fun location => (kept location).trans (same location)
              refine ⟨?_, fun location => (keptLater location).trans (kept location)⟩
              rw [repeated]
              rfl

end Compare
end Baseline
