import Baseline.Proofs.Compare.All
import Baseline.Proofs.Compare.Frame

/-!
# What a run leaves alone

In a store with links an artifact may lie elsewhere than its path says, and one that takes
the place of a link changes where paths lead.  What a run changes are the entries at the
locations to which the artifacts of a source lead when it is compared (`artifactLocations`),
and no others, whatever is made to fail (`compareAll_spares`).
-/

namespace Baseline
namespace Compare

open Baseline.Action (Ensures)

variable
  {options : CompareOptions}
  {path content : String}
  {store current after : Store}
  {locations wider : List Location}

/-- A well-formed store in which only the entries at some locations may differ from those of
another. -/
structure Spares (locations : List Location) (store current : Store) : Prop where
  /-- The store is well formed. -/
  wellFormed : current.WellFormed
  /-- All other entries are the same. -/
  outside_eq : current.outside locations = store.outside locations

/-- Moreover all paths lead where they led before. -/
structure Cleared (locations : List Location) (store current : Store) : Prop
    extends Spares locations store current where
  /-- No path leads elsewhere. -/
  resolve_eq (path : String) : current.resolve path = store.resolve path

theorem Spares.trans
    (first : Spares locations store current)
    (second : Spares locations current after) :
    Spares locations store after where
  wellFormed := second.wellFormed
  outside_eq := second.outside_eq.trans first.outside_eq

theorem Spares.mono (spares : Spares locations store current) (subset : locations ⊆ wider) :
    Spares wider store current where
  wellFormed := spares.wellFormed
  outside_eq := Store.outside_eq_of_subset subset spares.outside_eq

/-- Removing a file does not change where paths lead. -/
theorem Cleared.removed
    (cleared : Cleared locations store current)
    (member : store.resolve path ∈ locations)
    (removed : current.removeFile path = .ok after) :
    Cleared locations store after where
  wellFormed := cleared.wellFormed.removed removed
  outside_eq := by
    obtain ⟨_, _, rfl⟩ := Store.removeFile_eq_ok_iff.mp removed
    rw [cleared.resolve_eq, Store.outside_erase member, cleared.outside_eq]
  resolve_eq other := by rw [cleared.wellFormed.resolve_removed removed, cleared.resolve_eq]

theorem Cleared.put
    (cleared : Cleared locations store current)
    (member : store.resolve path ∈ locations) :
    Spares locations store (current.put (current.resolve path) (.file content)) where
  wellFormed := cleared.wellFormed.put (cleared.wellFormed.resolve_proper path) (by simp)
  outside_eq := by rw [cleared.resolve_eq, Store.outside_put member, cleared.outside_eq]

/-! ## One comparison -/

theorem removeFile_cleared (member : store.resolve path ∈ locations) :
    Ensures (fun system => Cleared locations store system.inner)
      (FileAccess.removeFile path : FileAction (Faulty Store) Unit)
      fun _ system => Cleared locations store system.inner := by
  intro system cleared
  cases faulty : system.fault? .removeFile path with
  | some error => rwa [Faulty.removeFile_run_of_fault faulty]
  | none =>
      rw [Faulty.removeFile_run_of_none faulty]
      cases removing : system.inner.removeFile path with
      | error error => rwa [removeFile_run_of_error removing]
      | ok after =>
          rw [removeFile_run_of_ok removing]
          exact cleared.removed member removing

theorem writeArtifact_spares
    (member : store.resolve path ∈ locations)
    (rendering : String) :
    Ensures (fun system => Cleared locations store system.inner)
      (writeArtifact path rendering : RunAction (Faulty Store) Unit)
      fun _ system => Spares locations store system.inner := by
  intro system cleared
  rcases overlays_faulty.written path rendering system with kept | ⟨content, written⟩
  · rw [kept]
    exact cleared.toSpares
  · rw [written]
    exact cleared.put member

theorem compareFile_ensures_spares
    (parser : Parser)
    (reference : store.resolve (options.referencePath path) ∈ locations)
    (actual : store.resolve (options.actualPath path) ∈ locations) :
    Ensures (fun system => Cleared locations store system.inner)
      (compareFile parser options path : RunAction (Faulty Store) Outcome)
      fun _ system => Spares locations store system.inner := by
  refine compareFile_ensures parser (fun _ _ cleared => cleared.toSpares) ?_ ?_ ?_
  · exact removeStale_ensures (removeFile_cleared actual)
  · exact writeArtifact_spares reference
  · exact writeArtifact_spares actual

/-- A comparison changes no entry but those to which the paths of its artifacts lead. -/
theorem compareFile_spares
    (parser : Parser)
    (options : CompareOptions)
    (path : String)
    (system : Faulty Store)
    (wellFormed : system.inner.WellFormed) :
    Spares
      [system.inner.resolve (options.referencePath path),
        system.inner.resolve (options.actualPath path)]
      system.inner ((compareFile parser options path).run system).2.inner := by
  refine compareFile_ensures_spares parser ?_ ?_ system ⟨⟨wellFormed, rfl⟩, fun _ => rfl⟩
  · exact List.mem_cons_self
  · exact List.mem_cons_of_mem _ List.mem_cons_self

/-! ## A run -/

/-- Where the artifacts of the sources lie, each when its source is compared. -/
def artifactLocations (parser : Parser) (options : CompareOptions) :
    List String → Faulty Store → List Location
  | [], _ => []
  | path :: rest, system =>
      [system.inner.resolve (options.referencePath path),
          system.inner.resolve (options.actualPath path)] ++
        artifactLocations parser options rest ((compareFile parser options path).run system).2

/-- A run changes no entry but those to which the paths of its artifacts lead, also if an
error ends it. -/
theorem compareAll_spares
    (parser : Parser)
    (options : CompareOptions)
    (paths : List String)
    (system : Faulty Store)
    (wellFormed : system.inner.WellFormed) :
    Spares (artifactLocations parser options paths system) system.inner
      ((compareAll parser options paths).run system).2.inner := by
  induction paths generalizing system with
  | nil => exact ⟨wellFormed, rfl⟩
  | cons path rest inductionHypothesis =>
      have now := compareFile_spares parser options path system wellFormed
      have later := inductionHypothesis _ now.wellFormed
      rw [artifactLocations]
      rcases ran : (compareFile parser options path).run system with ⟨error | outcome, next⟩
      all_goals rw [ran] at now later
      · rw [compareAll_run_of_error rest ran]
        exact now.mono (List.subset_append_left _ _)
      · rw [compareAll_run_of_ok rest ran]
        refine (now.mono ?_).trans (later.mono ?_)
        · exact List.subset_append_left _ _
        · exact List.subset_append_right _ _

end Compare
end Baseline
