import Baseline.Proofs.Compare.Effects
import Baseline.Proofs.Compare.History
import Baseline.Proofs.Store.Faulty
import Baseline.Proofs.Store.WellFormed

/-!
# The frame of a comparison

A comparison leaves every entry of a store alone but the reference and the actual
artifact, also if operations are made to fail, and the reference only differs if it was
created or could not be written (`Framed`).  If nothing is made to fail, the outcome
tells what the two files are afterwards (`Told`).
-/

namespace Baseline
namespace Compare

open Baseline.Action (Ensures)

/-! ## File systems over a store -/

/-- Removing and writing a file do to the store inside what they do to a store, or
nothing. -/
structure Overlays {σ : Type} [FileAccess σ] (inner : σ → Store) : Prop where
  /-- Removing a file erases it at most. -/
  removed (path : String) (state : σ) :
    let after := ((FileAccess.removeFile path : FileAction σ Unit).run state).2
    inner after = inner state ∨
      inner after = (inner state).erase ((inner state).resolve path)
  /-- Writing an artifact puts a file at its path at most. -/
  written (path rendering : String) (state : σ) :
    let after := ((writeArtifact path rendering : RunAction σ Unit).run state).2
    inner after = inner state ∨
      ∃ content, inner after = (inner state).put ((inner state).resolve path) (.file content)

theorem overlays_store : Overlays fun store : Store => store where
  removed path store := by
    cases removing : store.removeFile path with
    | error error => exact .inl (by rw [removeFile_run_of_error removing])
    | ok after =>
        obtain ⟨_, _, rfl⟩ := Store.removeFile_eq_ok_iff.mp removing
        exact .inr (by rw [removeFile_run_of_ok removing])
  written path rendering store := by
    have written := Store.writeFile_eq store path (rendering ++ "\n")
    cases refused : store.refusal? path with
    | some error =>
        rw [refused] at written
        exact .inl (by rw [writeArtifact_run_of_error written])
    | none =>
        rw [refused] at written
        exact .inr ⟨rendering ++ "\n", by rw [writeArtifact_run_of_ok written]⟩

theorem overlays_faulty : Overlays (Faulty.inner : Faulty Store → Store) where
  removed path system := by
    cases faulty : system.fault? .removeFile path with
    | some error => exact .inl (by rw [Faulty.removeFile_run_of_fault faulty])
    | none =>
        rw [Faulty.removeFile_run_of_none faulty]
        exact overlays_store.removed path system.inner
  written path rendering system := by
    cases refused : system.refusal? path with
    | some error => exact .inl (by rw [Faulty.writeArtifact_run_of_refused refused])
    | none =>
        cases faulty : system.fault? .write path with
        | some error =>
            exact .inr ⟨"", by rw [Faulty.writeArtifact_run_of_unwritten refused faulty]; rfl⟩
        | none =>
            refine .inr ⟨rendering ++ "\n", ?_⟩
            rw [Faulty.writeArtifact_run_of_written refused faulty]
            rfl

/-! ## What differs at most -/

section Overlay

variable
  {σ : Type}
  [FileAccess σ]
  {inner : σ → Store}
  {options : CompareOptions}
  {path : String}
  {store current : Store}
  {locations : List Location}
  {result : Except RunError Outcome}

/-- There are no links, and only the entries at some locations may differ from those of
a store. -/
structure SameOutside (locations : List Location) (store current : Store) : Prop where
  /-- No entry is a link. -/
  linkless : current.Linkless
  /-- All other entries are the same. -/
  outside_eq : current.outside locations = store.outside locations

theorem SameOutside.mono
    {wider : List Location}
    (same : SameOutside locations store current)
    (subset : locations ⊆ wider) :
    SameOutside wider store current where
  linkless := same.linkless
  outside_eq := Store.outside_eq_of_subset subset same.outside_eq

theorem SameOutside.put
    {content : String}
    (same : SameOutside locations store current)
    (member : .ofPath path ∈ locations) :
    SameOutside locations store (current.put (current.resolve path) (.file content)) where
  linkless := same.linkless.put (by simp)
  outside_eq := by
    rw [same.linkless.resolve_eq, Store.outside_put member, same.outside_eq]

theorem SameOutside.erase
    (same : SameOutside locations store current)
    (member : .ofPath path ∈ locations) :
    SameOutside locations store (current.erase (current.resolve path)) where
  linkless := same.linkless.erase _
  outside_eq := by
    rw [same.linkless.resolve_eq, Store.outside_erase member, same.outside_eq]

theorem Overlays.removeFile_ensures
    (overlays : Overlays inner)
    (member : .ofPath path ∈ locations) :
    Ensures (fun state => SameOutside locations store (inner state))
      (FileAccess.removeFile path : FileAction σ Unit)
      fun _ state => SameOutside locations store (inner state) := by
  intro state same
  rcases overlays.removed path state with kept | removed
  · rwa [kept]
  · rw [removed]
    exact same.erase member

theorem Overlays.writeArtifact_ensures
    (overlays : Overlays inner)
    (member : .ofPath path ∈ locations)
    (rendering : String) :
    Ensures (fun state => SameOutside locations store (inner state))
      (writeArtifact path rendering : RunAction σ Unit)
      fun _ state => SameOutside locations store (inner state) := by
  intro state same
  rcases overlays.written path rendering state with kept | ⟨content, written⟩
  · rwa [kept]
  · rw [written]
    exact same.put member

/-- The reference was created, or it could not be written. -/
def WritesReference (options : CompareOptions) (path : String)
    (result : Except RunError Outcome) : Prop :=
  result = .ok (.created (options.referencePath path)) ∨
    ∃ error, result = .error (.file (options.referencePath path) error)

/-- Only the actual artifact differs, or the reference was written. -/
structure Confined (options : CompareOptions) (path : String) (store : Store)
    (result : Except RunError Outcome) (current : Store) : Prop where
  /-- The two files are all that differs. -/
  both : SameOutside
    [.ofPath (options.referencePath path), .ofPath (options.actualPath path)] store current
  /-- Usually the actual artifact is all that differs. -/
  one : SameOutside [.ofPath (options.actualPath path)] store current ∨
    WritesReference options path result

theorem SameOutside.confined
    (same : SameOutside [.ofPath (options.actualPath path)] store current) :
    Confined options path store result current where
  both := same.mono (List.subset_cons_self _ _)
  one := .inl same

theorem writeArtifact_writesReference
    (rendering : String)
    (state : σ) :
    WritesReference options path
      ((((writeArtifact (options.referencePath path) rendering : RunAction σ Unit).run state).1).map
        fun () => .created (options.referencePath path)) := by
  have told (answer : Except FileError Unit) :
      WritesReference options path
        ((answer.mapError (RunError.file (options.referencePath path))).map
          fun () => .created (options.referencePath path)) := by
    cases answer with
    | ok => exact .inl rfl
    | error error => exact .inr ⟨error, rfl⟩
  rw [writeArtifact, Action.run_adapt]
  exact told _

/-- Comparing a source in a file system over a store. -/
theorem Overlays.compareFile_ensures
    (overlays : Overlays inner)
    (parser : Parser)
    (options : CompareOptions)
    (path : String)
    (store : Store) :
    Ensures
      (fun state => SameOutside [.ofPath (options.actualPath path)] store (inner state))
      (compareFile parser options path : RunAction σ Outcome)
      fun result state => Confined options path store result (inner state) := by
  refine Compare.compareFile_ensures parser (fun _ _ same => same.confined) ?_ ?_ ?_
  · exact removeStale_ensures (overlays.removeFile_ensures List.mem_cons_self)
  · intro rendering state same
    have widened := same.mono (List.subset_cons_self (.ofPath (options.referencePath path)) _)
    exact {
      both := overlays.writeArtifact_ensures List.mem_cons_self rendering state widened
      one := .inr (writeArtifact_writesReference rendering state) }
  · intro rendering state same
    have written := overlays.writeArtifact_ensures List.mem_cons_self rendering state same
    exact written.confined

end Overlay

/-! ## What the outcome tells -/

section Outcomes

variable
  {parser : Parser}
  {options : CompareOptions}
  {path : String}
  {store after tidy : Store}
  {result : Except RunError Outcome}
  {outcome : Outcome}
  {rendering : String}

/-- What a comparison may have made of a store: nothing but the reference and the actual
artifact may differ, and the reference only if it was written. -/
structure Framed (options : CompareOptions) (path : String) (store : Store)
    (result : Except RunError Outcome) (after : Store) : Prop where
  /-- All other entries are as they were, and in the same order. -/
  others :
    after.outside
        [store.resolve (options.referencePath path), store.resolve (options.actualPath path)] =
      store.outside
        [store.resolve (options.referencePath path), store.resolve (options.actualPath path)]
  /-- The source is as it was. -/
  source : after.find? (store.resolve path) = store.find? (store.resolve path)
  /-- The reference is as it was, unless it was created or could not be written. -/
  reference :
    after.find? (store.resolve (options.referencePath path)) =
        store.find? (store.resolve (options.referencePath path)) ∨
      WritesReference options path result

theorem Confined.framed
    (confined : Confined options path store result after)
    (linkless : store.Linkless)
    (apart : Apart options path store) :
    Framed options path store result after where
  others := by
    rw [linkless.resolve_eq, linkless.resolve_eq]
    exact confined.both.outside_eq
  source := by
    have notReference := apart.reference.symm
    have notActual := apart.actual.symm
    rw [linkless.resolve_eq, linkless.resolve_eq] at notReference notActual
    rw [linkless.resolve_eq]
    exact Store.find?_eq_of_outside_eq confined.both.outside_eq (by simp [notReference, notActual])
  reference := by
    have notActual := apart.artifacts
    rw [linkless.resolve_eq, linkless.resolve_eq] at notActual
    rw [linkless.resolve_eq]
    exact confined.one.imp_left fun same =>
      Store.find?_eq_of_outside_eq same.outside_eq (by simpa using notActual)

/-- What the outcome of a comparison tells about its files: a file that was written holds
the rendering of the source, and an actual artifact lies there exactly if there was a
mismatch, if earlier ones are removed. -/
structure Told (parser : Parser) (options : CompareOptions) (path : String) (store : Store)
    (outcome : Outcome) (after : Store) : Prop where
  /-- A reference that was created holds the rendering. -/
  created {reference : String} :
    outcome = .created reference →
    reference = options.referencePath path ∧
      ∃ rendering, Rendered parser options path store rendering ∧
        after.read (options.referencePath path) = some (rendering ++ "\n")
  /-- After a mismatch the actual artifact holds the rendering. -/
  mismatched {actual : String} :
    outcome = .mismatched actual →
    actual = options.actualPath path ∧
      ∃ rendering, Rendered parser options path store rendering ∧
        after.read (options.actualPath path) = some (rendering ++ "\n")
  /-- If earlier artifacts are removed, there is one exactly after a mismatch. -/
  cleaned :
    options.cleanStaleActuals = true →
    ((after.read (options.actualPath path)).isSome ↔ ∃ actual, outcome = .mismatched actual)
  /-- If they are not removed, the earlier one stays unless there is a mismatch. -/
  uncleaned :
    options.cleanStaleActuals = false →
    (∀ actual, outcome ≠ .mismatched actual) →
    after.find? (store.resolve (options.actualPath path)) =
      store.find? (store.resolve (options.actualPath path))

/-- Once an earlier artifact is removed, nothing is in its place. -/
theorem find?_of_withoutStale
    (wellFormed : store.WellFormed)
    (removed : withoutStale store path = .ok tidy) :
    tidy.find? (store.resolve path) = none := by
  unfold withoutStale at removed
  split at removed
  · split at removed
    next removing =>
        obtain ⟨_, _, rfl⟩ := Store.removeFile_eq_ok_iff.mp removing
        rw [← Except.ok.inj removed]
        exact wellFormed.find?_erase_self _
    next => cases removed
  · rename_i absent
    rw [← Except.ok.inj removed]
    exact (Store.present_eq_false_iff.mp (Bool.eq_false_iff.mpr absent)).2

/-- Without a mismatch the actual artifact is left alone. -/
theorem Settlement.find?_actual
    (settlement : Settlement parser options path tidy (.ok outcome) after)
    (linkless : tidy.Linkless)
    (artifacts : Location.ofPath (options.referencePath path) ≠
      .ofPath (options.actualPath path))
    (matching : ∀ actual, outcome ≠ .mismatched actual) :
    after.find? (.ofPath (options.actualPath path)) =
      tidy.find? (.ofPath (options.actualPath path)) := by
  rcases settlement.after_eq with rfl | ⟨_, _, content, written⟩ | ⟨mismatched, _⟩
  · rfl
  · exact linkless.find?_written written artifacts.symm
  · exact absurd (Except.ok.inj mismatched) (matching _)

/-- A file is written with the rendering of the source. -/
theorem Settlement.read_written
    (settlement : Settlement parser options path tidy (.ok outcome) after)
    (linkless : tidy.Linkless) :
    (∀ reference, outcome = .created reference →
        reference = options.referencePath path ∧
          ∃ rendering, Rendered parser options path tidy rendering ∧
            after.read (options.referencePath path) = some (rendering ++ "\n")) ∧
      ∀ actual, outcome = .mismatched actual →
        actual = options.actualPath path ∧
          ∃ rendering, Rendered parser options path tidy rendering ∧
            after.read (options.actualPath path) = some (rendering ++ "\n") := by
  cases settlement with
  | skipped => exact ⟨nofun, nofun⟩
  | passed => exact ⟨nofun, nofun⟩
  | created rendered missing written =>
      refine ⟨?_, nofun⟩
      rintro _ ⟨⟩
      exact ⟨rfl, _, rendered, linkless.read_written written⟩
  | mismatched rendered recorded different written =>
      refine ⟨nofun, ?_⟩
      rintro _ ⟨⟩
      exact ⟨rfl, _, rendered, linkless.read_written written⟩

/-- The source is rendered from what it holds before an earlier artifact is removed. -/
theorem Rendered.of_tidied
    (rendered : Rendered parser options path tidy rendering)
    (linkless : store.Linkless)
    (apart : Apart options path store)
    (removed : tidied options path store = .ok tidy) :
    Rendered parser options path store rendering := by
  have standing : Standing options path
      (store.find? (store.resolve (options.referencePath path))) store :=
    ⟨linkless, apart, rfl⟩
  obtain ⟨nonempty, renders⟩ := rendered
  rw [standing.readSource_tidied removed] at nonempty renders
  exact ⟨nonempty, renders⟩

theorem Comparison.told
    (comparison : Comparison parser options path store (.ok outcome) after)
    (wellFormed : store.WellFormed)
    (linkless : store.Linkless)
    (apart : Apart options path store) :
    Told parser options path store outcome after := by
  have afterLinkless := comparison.linkless linkless
  have artifacts := apart.artifacts
  rw [linkless.resolve_eq, linkless.resolve_eq] at artifacts
  cases comparison with
  | @settled tidy _ _ distinct removed settlement =>
  have tidyLinkless := tidied_linkless linkless removed
  obtain ⟨created, mismatched⟩ := settlement.read_written tidyLinkless
  refine ⟨fun equal => ?_, fun equal => ?_, fun clean => ⟨fun there => ?_, ?_⟩,
    fun unclean matching => ?_⟩
  · obtain ⟨path_eq, rendering, rendered, held⟩ := created _ equal
    exact ⟨path_eq, rendering, rendered.of_tidied linkless apart removed, held⟩
  · obtain ⟨path_eq, rendering, rendered, held⟩ := mismatched _ equal
    exact ⟨path_eq, rendering, rendered.of_tidied linkless apart removed, held⟩
  · -- Without a mismatch there is still nothing in the place of the earlier artifact.
    by_contra matching
    rw [tidied, if_pos clean] at removed
    have nothing := find?_of_withoutStale wellFormed removed
    rw [linkless.resolve_eq, ← settlement.find?_actual tidyLinkless artifacts
      (not_exists.mp matching)] at nothing
    rw [Store.read, afterLinkless.resolve_eq, nothing] at there
    cases there
  · rintro ⟨actual, equal⟩
    obtain ⟨_, rendering, _, held⟩ := mismatched _ equal
    rw [held]
    rfl
  · rw [tidied, unclean, if_neg Bool.false_ne_true] at removed
    rw [linkless.resolve_eq, Except.ok.inj removed]
    exact settlement.find?_actual tidyLinkless artifacts matching

/-- A comparison changes the reference and the actual artifact at most, whatever is made
to fail, and if nothing is, its outcome tells what they are. -/
theorem compareFile_framed
    {writers : List Store.Writer}
    (parser : Parser)
    (reachable : Store.Reachable store writers)
    (linkless : store.Linkless)
    (apart : Apart options path store) :
    (∀ faults result after,
        (compareFile parser options path).run (⟨store, faults⟩ : Faulty Store) = (result, after) →
        Framed options path store result after.inner) ∧
      ∀ result after,
        (compareFile parser options path).run store = (result, after) →
        Framed options path store result after ∧
          ∀ outcome, result = .ok outcome → Told parser options path store outcome after := by
  have unchanged : SameOutside [.ofPath (options.actualPath path)] store store := ⟨linkless, rfl⟩
  refine ⟨fun faults result after ran => ?_, fun result after ran => ⟨?_, ?_⟩⟩
  · have confined := overlays_faulty.compareFile_ensures parser options path store
      ⟨store, faults⟩ unchanged
    rw [ran] at confined
    exact confined.framed linkless apart
  · have confined := overlays_store.compareFile_ensures parser options path store store unchanged
    rw [ran] at confined
    exact confined.framed linkless apart
  · rintro outcome rfl
    exact (compareFile_run_eq_iff.mp ran).told reachable.wellFormed linkless apart

/-- A parser that takes every text for itself. -/
def echo : Parser where
  parse text := .value (.string text)

/-- A store with a source that does not match its reference, and an earlier artifact. -/
def outdated : Store :=
  ((Store.empty.withFile "a.js" "x").withFile "a.tree" "[1]").withFile "a.actual" "earlier"

/-- The artifact cannot be written if that is made to fail, and holds the rendering if
not. -/
theorem compareFile_framed_outdated :
    Store.Reachable outdated [] ∧ outdated.Linkless ∧ Apart {} "a.js" outdated ∧
      (∃ after,
        (compareFile echo {} "a.js").run
            (⟨outdated, [⟨.write, "a.actual", "disk full"⟩]⟩ : Faulty Store) =
          (.error (.file "a.actual" (.refused "disk full")), after) ∧
        Framed {} "a.js" outdated (.error (.file "a.actual" (.refused "disk full")))
          after.inner) ∧
      ∃ after,
        (compareFile echo {} "a.js").run outdated = (.ok (.mismatched "a.actual"), after) ∧
        Framed {} "a.js" outdated (.ok (.mismatched "a.actual")) after ∧
          Told echo {} "a.js" outdated (.mismatched "a.actual") after := by
  have reachable : Store.Reachable outdated [] :=
    .withFile _ _ (.withFile _ _ (.withFile _ _ (.empty _)))
  have linkless : outdated.Linkless := by decide +kernel
  have apart : Apart {} "a.js" outdated :=
    ⟨by decide +kernel, by decide +kernel, by decide +kernel⟩
  have failed :
      (compareFile echo {} "a.js").run
          (⟨outdated, [⟨.write, "a.actual", "disk full"⟩]⟩ : Faulty Store) =
        (.error (.file "a.actual" (.refused "disk full")), _) :=
    Prod.ext (by decide +kernel) rfl
  have ran : (compareFile echo {} "a.js").run outdated =
      (.ok (.mismatched "a.actual"), _) :=
    Prod.ext (by decide +kernel) rfl
  obtain ⟨faulty, sound⟩ := compareFile_framed echo reachable linkless apart
  obtain ⟨framed, told⟩ := sound _ _ ran
  exact ⟨reachable, linkless, apart, ⟨_, failed, faulty _ _ _ failed⟩, _, ran, framed, told _ rfl⟩

end Outcomes

end Compare
end Baseline
