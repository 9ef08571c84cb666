import Baseline.Proofs.Compare.Altered
import Baseline.Proofs.Compare.Frame
import Baseline.Proofs.Compare.Mirror
import Baseline.Proofs.Compare.Twice

/-!
# After a reference was not written

If opening, writing or closing a new reference fails, the reference is as it was before, or
empty, or complete (`Halfway`).  Each of them is taken up again by the next comparison, which
creates the reference or passes (`Halfway.recovered`), unless removing the actual artifact of
an earlier run has cost the store a file that is needed (`Obstructed`).
-/

namespace Baseline

namespace Store

variable {store : Store} {path content : String}

theorem refusal?_eq_none
    (notDirectory : store.find? (store.resolve path) ≠ some .directory)
    (around : (store.lookupLocation (store.resolve path).parent).isSome) :
    store.refusal? path = none := by
  rw [refusal?, if_neg notDirectory, if_neg (by simpa using Option.isSome_iff_ne_none.mp around)]

/-- A file that can be written can be written once more. -/
theorem Linkless.refusal?_put
    (linkless : store.Linkless)
    (free : store.refusal? path = none) :
    (store.put (store.resolve path) (.file content)).refusal? path = none := by
  have writable : ∃ next, store.writeFile path content = .ok next :=
    exists_writeFile_eq_ok_iff.mpr free
  obtain ⟨next, written⟩ := writable
  obtain ⟨_, around, rfl⟩ := writeFile_eq_ok_iff.mp written
  have nextLinkless := linkless.written written
  rw [linkless.lookupLocation_eq, linkless.resolve_eq] at around
  refine refusal?_eq_none ?_ ?_
  · rw [nextLinkless.resolve_eq, linkless.resolve_eq, find?_put_self]
    simp
  · rw [nextLinkless.lookupLocation_eq, nextLinkless.resolve_eq]
    exact isSome_entryAt_put around

end Store

namespace Compare

variable
  {parser : Parser}
  {options : CompareOptions}
  {path rendering : String}
  {store tidy half : Store}
  {faults : List Fault}
  {error : RunError}

/-! ## What is left -/

/-- What may become of a store if writing the reference fails. -/
inductive Halfway (options : CompareOptions) (path rendering : String) (tidy : Store) :
    Store → Prop
  /-- The reference is not opened, or it is not even tried to write it. -/
  | untouched : Halfway options path rendering tidy tidy
  /-- The reference is opened, and nothing is written, or all is written. -/
  | begun {content : String}
      (opened : tidy.refusal? (options.referencePath path) = none)
      (content_eq : content = "" ∨ content = rendering ++ "\n") :
      Halfway options path rendering tidy
        (tidy.put (tidy.resolve (options.referencePath path)) (.file content))

theorem halfway_of_unwritten
    {system last : Faulty Store}
    (unwritten : (writeArtifact (options.referencePath path) rendering).run system =
      (.error error, last)) :
    Halfway options path rendering system.inner last.inner := by
  cases refused : system.refusal? (options.referencePath path) with
  | some reason =>
      rw [Faulty.writeArtifact_run_of_refused refused] at unwritten
      cases unwritten
      exact .untouched
  | none =>
      have opened := (Option.or_eq_none_iff.mp refused).2
      cases faulty : system.fault? .write (options.referencePath path) with
      | some reason =>
          rw [Faulty.writeArtifact_run_of_unwritten refused faulty] at unwritten
          cases unwritten
          exact .begun opened (.inl rfl)
      | none =>
          rw [Faulty.writeArtifact_run_of_written refused faulty, Prod.mk.injEq] at unwritten
          rw [← unwritten.2]
          exact .begun opened (.inr rfl)

theorem withoutStale_eq_error_path
    {target : String}
    (stuck : withoutStale store target = .error error) :
    ∃ reason, error = .file target reason := by
  unfold withoutStale at stuck
  split at stuck
  · split at stuck
    next => cases stuck
    next reason _ => exact ⟨reason, (Except.error.inj stuck).symm⟩
  · cases stuck

/-- Tidying a store in which only writing the reference fails. -/
theorem exists_of_tidies
    {next : Faulty Store}
    (fails : Faulty.FailsWriting (options.referencePath path) faults)
    (tidies : Tidies options path (⟨store, faults⟩ : Faulty Store) next) :
    ∃ tidy, tidied options path store = .ok tidy ∧ next = ⟨tidy, faults⟩ := by
  by_cases clean : options.cleanStaleActuals
  · rw [Tidies, if_pos clean, fails.removeStale_run] at tidies
    rw [tidied, if_pos clean]
    cases removed : withoutStale store (options.actualPath path) with
    | ok tidy =>
        simp only [removed] at tidies
        cases tidies
        exact ⟨tidy, rfl, rfl⟩
    | error stuck =>
        simp only [removed] at tidies
        cases tidies
  · rw [Tidies, if_neg clean] at tidies
    rw [tidied, if_neg clean]
    exact ⟨store, rfl, tidies⟩

/-- If only writing the reference fails, and the comparison fails at the reference, this is
what it leaves. -/
theorem halfway_of_failed
    {reason : FileError}
    {last : Faulty Store}
    (fails : Faulty.FailsWriting (options.referencePath path) faults)
    (notSource : path ≠ options.referencePath path)
    (notActual : options.actualPath path ≠ options.referencePath path)
    (missing : ∀ tidy, tidied options path store = .ok tidy →
      readReference tidy options.readMode (options.referencePath path) = .ok none)
    (failed : (compareFile parser options path).run (⟨store, faults⟩ : Faulty Store) =
      (.error (.file (options.referencePath path) reason), last)) :
    ∃ tidy rendering,
      checkExtensions options.extensions = .ok () ∧
        tidied options path store = .ok tidy ∧
          Rendered parser options path tidy rendering ∧
            Halfway options path rendering tidy last.inner := by
  have rendered {tidy : Store} {rendering : String}
      (renders : Renders parser options path (⟨tidy, faults⟩ : Faulty Store) rendering) :
      Rendered parser options path tidy rendering := by
    obtain ⟨nonempty, renders⟩ := renders
    rw [fails.readSource_eq tidy options.readMode notSource] at nonempty renders
    exact ⟨nonempty, renderSource_eq_ok_iff.mp renders⟩
  cases compareFile_fails failed with
  | clash clashing =>
      unfold checkExtensions at clashing
      split at clashing <;> cases clashing
  | untidy distinct stuck =>
      rw [fails.removeStale_run] at stuck
      split at stuck
      next => cases stuck
      next error removing =>
          obtain ⟨_, error_eq⟩ := withoutStale_eq_error_path removing
          rw [error_eq] at stuck
          exact absurd (RunError.file.inj (Except.error.inj (Prod.mk.inj stuck).1)).1 notActual
  | refused distinct tidies refusal =>
      unfold renderSource at refusal
      split at refusal <;> cases refusal
  | unreadable distinct tidies renders unread =>
      obtain ⟨tidy, removed, rfl⟩ := exists_of_tidies fails tidies
      exact ⟨tidy, _, distinct, removed, rendered renders, .untouched⟩
  | unsettled distinct tidies renders read unwritten =>
      obtain ⟨tidy, removed, rfl⟩ := exists_of_tidies fails tidies
      refine ⟨tidy, _, distinct, removed, rendered renders, ?_⟩
      have unrecorded := fails.readReference_eq (missing tidy removed)
      rw [read] at unrecorded
      obtain rfl := Except.ok.inj (unrecorded.resolve_right nofun)
      rw [settle] at unwritten
      rcases writing : (writeArtifact (options.referencePath path) _).run
        (⟨tidy, faults⟩ : Faulty Store) with ⟨error | _, next⟩
      · rw [Action.run_bind_of_error writing] at unwritten
        cases unwritten
        exact halfway_of_unwritten writing
      · rw [Action.run_bind_of_ok writing] at unwritten
        cases unwritten

/-! ## Comparing again -/

/-- The actual artifact of an earlier run lies at the root, or in place of the directory of
the reference, and is removed. -/
def Obstructed (options : CompareOptions) (path : String) (store : Store) : Prop :=
  options.cleanStaleActuals = true ∧
    (store.resolve (options.actualPath path) = [] ∨
      store.resolve (options.actualPath path) =
        (store.resolve (options.referencePath path)).parent)

theorem Halfway.linkless
    (halfway : Halfway options path rendering tidy half)
    (linkless : tidy.Linkless) :
    half.Linkless := by
  cases halfway with
  | untouched => exact linkless
  | begun => exact linkless.put (by simp)

theorem Halfway.find?_eq
    {location : Location}
    (halfway : Halfway options path rendering tidy half)
    (linkless : tidy.Linkless)
    (other : location ≠ .ofPath (options.referencePath path)) :
    half.find? location = tidy.find? location := by
  cases halfway with
  | untouched => rfl
  | begun =>
      rw [linkless.resolve_eq]
      exact Store.find?_put_of_ne other

/-- What is left of the reference is complete, or taken for missing. -/
theorem Halfway.reference
    (halfway : Halfway options path rendering tidy half)
    (linkless : tidy.Linkless)
    (missing : readReference tidy options.readMode (options.referencePath path) = .ok none) :
    readReference half options.readMode (options.referencePath path) = .ok none ∨
      half.read (options.referencePath path) = some (rendering ++ "\n") := by
  cases halfway with
  | untouched => exact .inl missing
  | begun opened content_eq =>
      have held := linkless.read_put (options.referencePath path)
      rcases content_eq with rfl | rfl
      · left
        rw [readReference_eq_none_iff (held ""), ← ReadMode.isRecorded_seen_iff,
          ← Text.stripLineBreaks_isEmpty_iff]
        cases options.readMode <;> decide
      · exact .inr (held _)

/-- The reference can be written if it could be written before. -/
theorem Halfway.refusal?_eq_none
    (halfway : Halfway options path rendering tidy half)
    (linkless : tidy.Linkless)
    (free : tidy.refusal? (options.referencePath path) = none) :
    half.refusal? (options.referencePath path) = none := by
  cases halfway with
  | untouched => exact free
  | begun => exact linkless.refusal?_put free

/-- A source was rendered and its reference was taken for missing, but not written. -/
structure Interrupted (parser : Parser) (options : CompareOptions) (path : String)
    (store tidy : Store) (rendering : String) (half : Store) : Prop where
  /-- The table of the store is in order. -/
  wellFormed : store.WellFormed
  /-- No entry is a link. -/
  linkless : store.Linkless
  /-- The paths lead to three entries. -/
  apart : Apart options path store
  /-- The extensions are all different. -/
  distinct : checkExtensions options.extensions = .ok ()
  /-- The actual artifact of an earlier run was removed, if the options ask for that. -/
  removed : tidied options path store = .ok tidy
  /-- The source has a rendering. -/
  rendered : Rendered parser options path tidy rendering
  /-- The reference was taken for missing. -/
  missing : readReference tidy options.readMode (options.referencePath path) = .ok none
  /-- This is what was left. -/
  halfway : Halfway options path rendering tidy half

namespace Interrupted

variable (interrupted : Interrupted parser options path store tidy rendering half)

include interrupted

theorem tidy_linkless : tidy.Linkless :=
  tidied_linkless interrupted.linkless interrupted.removed

theorem half_linkless : half.Linkless :=
  interrupted.halfway.linkless interrupted.tidy_linkless

theorem artifacts_ne :
    Location.ofPath (options.actualPath path) ≠ .ofPath (options.referencePath path) := by
  have artifacts := interrupted.apart.artifacts
  rw [interrupted.linkless.resolve_eq, interrupted.linkless.resolve_eq] at artifacts
  exact artifacts.symm

/-- Once it is removed, nothing is in the place of the actual artifact. -/
theorem find?_actual (clean : options.cleanStaleActuals = true) :
    tidy.find? (.ofPath (options.actualPath path)) = none := by
  have removed := interrupted.removed
  rw [tidied, if_pos clean] at removed
  rw [← interrupted.linkless.resolve_eq]
  exact find?_of_withoutStale interrupted.wellFormed removed

/-- The source is rendered as before. -/
theorem rendered_again : Rendered parser options path half rendering := by
  have reference := interrupted.apart.reference
  rw [interrupted.linkless.resolve_eq, interrupted.linkless.resolve_eq] at reference
  refine interrupted.rendered.again ?_
  exact readSource_eq_of_find?_eq interrupted.tidy_linkless interrupted.half_linkless
    (interrupted.halfway.find?_eq interrupted.tidy_linkless reference.symm) _

/-- There is nothing more to remove, unless that is the root. -/
theorem tidied_again
    (below : options.cleanStaleActuals = true → Location.ofPath (options.actualPath path) ≠ []) :
    tidied options path half = .ok half := by
  by_cases clean : options.cleanStaleActuals = true
  · apply tidied_of_absent
    rw [Store.present_eq_false_iff, interrupted.half_linkless.resolve_eq,
      interrupted.halfway.find?_eq interrupted.tidy_linkless interrupted.artifacts_ne]
    exact ⟨below clean, interrupted.find?_actual clean⟩
  · rw [tidied, if_neg clean]

/-- The reference can be written as before, unless the directory around it is gone. -/
theorem refusal?_tidy (free : ¬Obstructed options path store) :
    tidy.refusal? (options.referencePath path) = store.refusal? (options.referencePath path) := by
  have linkless := interrupted.linkless
  by_cases clean : options.cleanStaleActuals = true
  · rcases tidied_eq_ok interrupted.removed with rfl | removed
    · rfl
    have around : (Location.ofPath (options.referencePath path)).parent ≠
        .ofPath (options.actualPath path) := by
      intro same
      refine free ⟨clean, .inr ?_⟩
      rw [linkless.resolve_eq, linkless.resolve_eq, same]
    have parent_eq : tidy.entryAt (Location.ofPath (options.referencePath path)).parent =
        store.entryAt (Location.ofPath (options.referencePath path)).parent :=
      Store.entryAt_eq_of_find?_eq (linkless.find?_removed removed around)
    refine linkless.refusal?_eq_of_alike interrupted.tidy_linkless ?_
      (congrArg Option.isNone parent_eq)
    rw [linkless.find?_removed removed interrupted.artifacts_ne.symm]
  · have removed := interrupted.removed
    rw [tidied, if_neg clean] at removed
    rw [Except.ok.inj removed]

/-- The next comparison creates the reference, or passes if all of it was written. -/
theorem recovered
    (parses : ∀ text value, parser.parse text = .value value → value.WellFormed)
    (free : ¬Obstructed options path store)
    (writable : store.refusal? (options.referencePath path) = none) :
    ∃ outcome last,
      Comparison parser options path half (.ok outcome) last ∧
        (outcome = .created (options.referencePath path) ∨ outcome = .passed) ∧
          last.read (options.referencePath path) = some (rendering ++ "\n") := by
  have removedAgain : tidied options path half = .ok half := by
    refine interrupted.tidied_again fun clean root => free ⟨clean, .inl ?_⟩
    rwa [interrupted.linkless.resolve_eq]
  rcases interrupted.halfway.reference interrupted.tidy_linkless interrupted.missing with
    missing | held
  · rw [← interrupted.refusal?_tidy free] at writable
    have writableAgain := interrupted.halfway.refusal?_eq_none interrupted.tidy_linkless writable
    obtain ⟨last, written⟩ :
        ∃ last, half.writeFile (options.referencePath path) (rendering ++ "\n") = .ok last :=
      Store.exists_writeFile_eq_ok_iff.mpr writableAgain
    exact ⟨_, last,
      .settled interrupted.distinct removedAgain
        (.created interrupted.rendered_again missing written),
      .inl rfl, interrupted.half_linkless.read_written written⟩
  · obtain ⟨value, parsed, rfl⟩ := interrupted.rendered_again.renders
    have recorded :
        readReference half options.readMode (options.referencePath path) = .ok (some _) :=
      readReference_of_record (parses _ value parsed) held
    exact ⟨_, half,
      .settled interrupted.distinct removedAgain (.passed interrupted.rendered_again recorded),
      .inr rfl, held⟩

/-- The root still passes for a directory, and cannot be removed. -/
theorem stuck_of_root
    (clean : options.cleanStaleActuals = true)
    (root : Location.ofPath (options.actualPath path) = []) :
    tidied options path half =
      .error (.file (options.actualPath path) (.noEntry (options.actualPath path))) := by
  have leads : half.resolve (options.actualPath path) = [] := by
    rw [interrupted.half_linkless.resolve_eq, root]
  have there : half.present (options.actualPath path) = true := by
    rw [Store.present, Store.lookup_of_resolve_eq_nil leads]
    rfl
  have nothing : half.find? [] = none := by
    have notReference := interrupted.artifacts_ne
    have gone := interrupted.find?_actual clean
    rw [root] at notReference gone
    rw [interrupted.halfway.find?_eq interrupted.tidy_linkless notReference, gone]
  rw [tidied, if_pos clean, withoutStale, if_pos there]
  simp only [Store.removeFile, leads, nothing]

/-- Without the directory around it, the reference cannot be written. -/
theorem refusal?_of_around
    (clean : options.cleanStaleActuals = true)
    (below : Location.ofPath (options.actualPath path) ≠ [])
    (around : Location.ofPath (options.actualPath path) =
      (Location.ofPath (options.referencePath path)).parent) :
    ∃ reason, tidy.refusal? (options.referencePath path) = some reason := by
  have linkless := interrupted.tidy_linkless
  have gone : tidy.lookupLocation (tidy.resolve (options.referencePath path)).parent = none := by
    rw [linkless.resolve_eq, linkless.lookupLocation_eq, ← around, Store.entryAt_of_ne_nil below,
      interrupted.find?_actual clean]
  rw [Store.refusal?, gone, if_pos Option.isNone_none]
  split <;> exact ⟨_, rfl⟩

/-- What has been removed is missed by the next comparison. -/
theorem failed_of_obstructed (obstructed : Obstructed options path store) :
    ∃ error, Comparison parser options path half (.error error) half := by
  obtain ⟨clean, place⟩ := obstructed
  rw [interrupted.linkless.resolve_eq, interrupted.linkless.resolve_eq] at place
  by_cases root : Location.ofPath (options.actualPath path) = []
  · exact ⟨_, .untidy interrupted.distinct (interrupted.stuck_of_root clean root)⟩
  · obtain ⟨reason, refused⟩ :=
      interrupted.refusal?_of_around clean root (place.resolve_left root)
    have removedAgain := interrupted.tidied_again fun _ => root
    have renderedAgain := interrupted.rendered_again
    -- The reference was not opened, so nothing else has changed.
    cases interrupted.halfway with
    | untouched =>
        have unwritten : tidy.writeFile (options.referencePath path) (rendering ++ "\n") =
            .error reason :=
          Store.writeFile_eq_error_iff.mpr refused
        exact ⟨_, .settled interrupted.distinct removedAgain
          (.uncreated renderedAgain interrupted.missing unwritten)⟩
    | begun opened =>
        rw [opened] at refused
        cases refused

end Interrupted

/-- There is no file at the path, or it holds nothing but line breaks. -/
def Blank (store : Store) (path : String) : Prop :=
  store.present path = false ∨ ∃ content, store.read path = some content ∧ ¬Text.IsRecorded content

theorem Blank.readReference_eq
    (blank : Blank store path)
    (mode : ReadMode) :
    readReference store mode path = .ok none := by
  rcases blank with absent | ⟨content, held, unrecorded⟩
  · exact readReference_of_absent absent
  · exact (readReference_eq_none_iff held).mpr fun records => unrecorded records.isRecorded

theorem Blank.refusal?_eq_none
    (blank : Blank store path)
    (around : (store.lookupLocation (store.resolve path).parent).isSome) :
    store.refusal? path = none := by
  have notDirectory : store.find? (store.resolve path) ≠ some .directory := by
    rcases blank with absent | ⟨content, held, _⟩
    · rw [(Store.present_eq_false_iff.mp absent).2]
      simp
    · rw [Store.read_eq_some_iff.mp held]
      simp
  exact Store.refusal?_eq_none notDirectory around

/-- If the reference is missing and a comparison fails at it because opening, writing or
closing it fails, the next comparison creates it or passes, and the reference then holds the
rendering.  The only exception is an actual artifact of an earlier run at the root, or in
place of the directory of the reference: it is removed first, and the next comparison fails
too. -/
theorem failed_reference_recovered
    {writers : List Store.Writer}
    {reason : FileError}
    {last : Faulty Store}
    (parses : ∀ text value, parser.parse text = .value value → value.WellFormed)
    (reachable : Store.Reachable store writers)
    (linkless : store.Linkless)
    (apart : Apart options path store)
    (blank : Blank store (options.referencePath path))
    (around : (store.lookupLocation
      (store.resolve (options.referencePath path)).parent).isSome)
    (fails : Faulty.FailsWriting (options.referencePath path) faults)
    (failed : (compareFile parser options path).run (⟨store, faults⟩ : Faulty Store) =
      (.error (.file (options.referencePath path) reason), last)) :
    ∃ rendering,
      Rendered parser options path store rendering ∧
        (¬Obstructed options path store →
          ∃ outcome final,
            (compareFile parser options path).run last.inner = (.ok outcome, final) ∧
              (outcome = .created (options.referencePath path) ∨ outcome = .passed) ∧
                final.read (options.referencePath path) = some (rendering ++ "\n")) ∧
          (Obstructed options path store →
            ∃ error, (compareFile parser options path).run last.inner =
              (.error error, last.inner)) := by
  have standing : Standing options path
      (store.find? (store.resolve (options.referencePath path))) store :=
    ⟨linkless, apart, rfl⟩
  have missing (tidy : Store) (removed : tidied options path store = .ok tidy) :
      readReference tidy options.readMode (options.referencePath path) = .ok none := by
    have found := (standing.tidied removed).found
    have tidyLinkless := tidied_linkless linkless removed
    rw [linkless.resolve_eq, tidyLinkless.resolve_eq] at found
    rw [readReference_eq_of_find?_eq linkless tidyLinkless found, blank.readReference_eq]
  have notSource : path ≠ options.referencePath path := fun same =>
    apart.reference (congrArg store.resolve same.symm)
  have notActual : options.actualPath path ≠ options.referencePath path := fun same =>
    apart.artifacts (congrArg store.resolve same.symm)
  obtain ⟨tidy, rendering, distinct, removed, rendered, halfway⟩ :=
    halfway_of_failed fails notSource notActual missing failed
  have interrupted : Interrupted parser options path store tidy rendering last.inner :=
    ⟨reachable.wellFormed, linkless, apart, distinct, removed, rendered, missing tidy removed,
      halfway⟩
  refine ⟨rendering, rendered.of_tidied linkless apart removed, fun free => ?_,
    fun obstructed => ?_⟩
  · obtain ⟨outcome, final, comparison, recorded⟩ :=
      interrupted.recovered parses free (blank.refusal?_eq_none around)
    exact ⟨outcome, final, comparison.run_eq, recorded⟩
  · obtain ⟨error, comparison⟩ := interrupted.failed_of_obstructed obstructed
    exact ⟨error, comparison.run_eq⟩

/-- A store with a source and a reference that holds an empty line. -/
def cleared : Store :=
  (Store.empty.withFile "a.js" "x").withFile "a.tree" "\r\n"

/-- A reference that was emptied and not written is created by the next comparison. -/
theorem failed_reference_recovered_cleared :
    Store.Reachable cleared [] ∧ cleared.Linkless ∧ Apart {} "a.js" cleared ∧
      Blank cleared "a.tree" ∧
      Faulty.FailsWriting "a.tree" [⟨.write, "a.tree", "disk full"⟩] ∧
      ∃ last,
        (compareFile .lineList {} "a.js").run
            (⟨cleared, [⟨.write, "a.tree", "disk full"⟩]⟩ : Faulty Store) =
          (.error (.file "a.tree" (.refused "disk full")), last) ∧
        last.inner.read "a.tree" = some "" ∧
        ∃ rendering outcome final,
          Rendered .lineList {} "a.js" cleared rendering ∧
          (compareFile .lineList {} "a.js").run last.inner = (.ok outcome, final) ∧
          (outcome = .created "a.tree" ∨ outcome = .passed) ∧
          final.read "a.tree" = some (rendering ++ "\n") := by
  have reachable : Store.Reachable cleared [] := .withFile _ _ (.withFile _ _ (.empty _))
  have linkless : cleared.Linkless := by decide +kernel
  have apart : Apart {} "a.js" cleared :=
    ⟨by decide +kernel, by decide +kernel, by decide +kernel⟩
  have blank : Blank cleared "a.tree" :=
    .inr ⟨"\r\n", by decide +kernel, by decide +kernel⟩
  have fails : Faulty.FailsWriting "a.tree" [⟨.write, "a.tree", "disk full"⟩] := by
    decide +kernel
  have failed :
      (compareFile .lineList {} "a.js").run
          (⟨cleared, [⟨.write, "a.tree", "disk full"⟩]⟩ : Faulty Store) =
        (.error (.file "a.tree" (.refused "disk full")), _) :=
    Prod.ext (by decide +kernel) rfl
  obtain ⟨rendering, rendered, recovers, _⟩ := failed_reference_recovered
    (fun _ _ => lineList_wellFormed) reachable linkless apart blank (by decide +kernel) fails failed
  have free : ¬Obstructed {} "a.js" cleared := by
    rintro ⟨_, root | around⟩
    · exact absurd root (by decide +kernel)
    · exact absurd around (by decide +kernel)
  obtain ⟨outcome, final, ran, recorded⟩ := recovers free
  exact ⟨reachable, linkless, apart, blank, fails, _, failed, by decide +kernel, rendering, outcome,
    final, rendered, ran, recorded⟩

/-- A store with a source and a file at the root itself. -/
def rootFileAndSource : Store :=
  rootFile.withFile ".js" "x"

/-- A file at the root is removed by the comparison that fails, and missed by the next
one. -/
theorem failed_reference_unrecovered_rootFile :
    Store.Reachable rootFileAndSource [] ∧ rootFileAndSource.Linkless ∧
      rootOptions.extensions.clash? = none ∧ Apart rootOptions ".js" rootFileAndSource ∧
      rootFileAndSource.present ".tree" = false ∧
      (rootFileAndSource.lookupLocation (rootFileAndSource.resolve ".tree").parent).isSome ∧
      ∃ last,
        (compareFile .lineList rootOptions ".js").run
            (⟨rootFileAndSource, [⟨.openWrite, ".tree", "disk full"⟩]⟩ : Faulty Store) =
          (.error (.file ".tree" (.refused "disk full")), last) ∧
        ((compareFile .lineList rootOptions ".js").run last.inner).1 =
          .error (.file "." (.noEntry ".")) :=
  ⟨.withFile _ _ (.withFile _ _ (.empty _)), by decide +kernel, by decide,
    ⟨by decide +kernel, by decide +kernel, by decide +kernel⟩, by decide +kernel,
    by decide +kernel, _, Prod.ext (by decide +kernel) rfl, by decide +kernel⟩

end Compare
end Baseline
