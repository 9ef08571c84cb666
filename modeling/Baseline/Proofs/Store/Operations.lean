import Baseline.Proofs.Store.Answers
import Baseline.Proofs.Store.Housed

/-!
# Operations on a store

A sequence of operations works on a store and on any number of files open for writing at the
same time.  Whatever it does, no two entries have one path, and all paths are in normal form.
But it may leave an entry outside the directories: below a file or a link, because most
operations put an entry wherever they are told to, or ask for any entry around it instead of a
directory.  The store stays a tree exactly as long as each operation finds its place
(`Fits`, `stays_tree_iff`).
-/

namespace Baseline
namespace Store

/-- A store and the files that are open for writing. -/
structure OpenStore where
  /-- The store. -/
  store : Store
  /-- The files open for writing, the one opened last first. -/
  writers : List Writer

/-- What can be done with a store and the files open for writing. -/
inductive Operation
  /-- Add a directory and the missing ones around it. -/
  | withDirectory (path : String)
  /-- Add a file and the missing directories around it. -/
  | withFile (path content : String)
  /-- Add a link and the missing directories around it. -/
  | withLink (path target : String)
  /-- Make a directory inside an existing one. -/
  | makeDirectory (path : String)
  /-- Remove a file. -/
  | removeFile (path : String)
  /-- Open a file for writing. -/
  | openWrite (path : String)
  /-- Write a text to an open file. -/
  | write (index : Nat) (text : String)
  /-- Close or drop an open file. -/
  | release (index : Nat)

/-- The state after an operation; one that is refused changes nothing. -/
def Operation.perform (state : OpenStore) : Operation → OpenStore
  | .withDirectory path => { state with store := state.store.withDirectory path }
  | .withFile path content => { state with store := state.store.withFile path content }
  | .withLink path target => { state with store := state.store.withLink path target }
  | .makeDirectory path =>
      { state with store := (state.store.makeDirectory path).toOption.getD state.store }
  | .removeFile path =>
      { state with store := (state.store.removeFile path).toOption.getD state.store }
  | .openWrite path =>
      match state.store.openWrite path with
      | .ok (writer, after) => ⟨after, writer :: state.writers⟩
      | .error _ => state
  | .write index text =>
      { state with writers := state.writers.modify index fun writer => writer.write text }
  | .release index =>
      match state.writers[index]? with
      | some writer => ⟨writer.commit state.store, state.writers.eraseIdx index⟩
      | none => state

/-- The state after some operations. -/
def perform (operations : List Operation) (state : OpenStore) : OpenStore :=
  operations.foldl Operation.perform state

/-- An empty store and no open files. -/
def fresh (surface : Surface) : OpenStore :=
  ⟨{ surface }, []⟩

/-- The entry around the location is a directory, and no entry lies in the location. -/
def IsPlace (store : Store) (location : Location) : Prop :=
  store.entryAt location.parent = some .directory ∧ store.Vacant location

/-- The operation puts entries into directories only and takes no directory away that has
entries in it.  Operations that are refused put nothing. -/
def Operation.Fits (state : OpenStore) : Operation → Prop
  | .withDirectory path =>
      (state.store.find? (.ofPath path)).isSome ∨ state.store.Clear (.ofPath path)
  | .withFile path _ | .withLink path _ =>
      state.store.Clear (Location.ofPath path).parent ∧ state.store.Vacant (.ofPath path)
  | .makeDirectory path =>
      (∃ after, state.store.makeDirectory path = .ok after) →
        state.store.entryAt (state.store.resolve path).parent = some .directory
  | .openWrite path =>
      (∃ opened, state.store.openWrite path = .ok opened) →
        state.store.entryAt (state.store.resolve path).parent = some .directory
  | .release index =>
      ∀ writer, state.writers[index]? = some writer → state.store.IsPlace writer.location
  | .removeFile _ | .write _ _ => True

/-- Each of the operations fits when it is performed. -/
def AllFit : OpenStore → List Operation → Prop
  | _, [] => True
  | state, operation :: rest => operation.Fits state ∧ AllFit (operation.perform state) rest

/-- The paths of the entries. -/
def paths (store : Store) : List String :=
  store.entries.map fun pair => Location.toPath pair.1

variable {state : OpenStore} {operation : Operation}

/-! ## What holds after any operations -/

theorem reachable_perform
    (reachable : Reachable state.store state.writers)
    (operation : Operation) :
    Reachable (operation.perform state).store (operation.perform state).writers := by
  cases operation with
  | withDirectory path => exact reachable.withDirectory path
  | withFile path content => exact reachable.withFile path content
  | withLink path target => exact reachable.withLink path target
  | makeDirectory path =>
      rw [Operation.perform]
      cases made : state.store.makeDirectory path with
      | error error => exact reachable
      | ok after => exact reachable.makeDirectory made
  | removeFile path =>
      rw [Operation.perform]
      cases removed : state.store.removeFile path with
      | error error => exact reachable
      | ok after => exact reachable.removeFile removed
  | openWrite path =>
      rw [Operation.perform]
      cases opened : state.store.openWrite path with
      | error error => exact reachable
      | ok pair => exact reachable.openWrite opened
  | write index text =>
      rw [Operation.perform]
      by_cases isOpen : index < state.writers.length
      · obtain ⟨earlier, writer, later, writers_eq, _, modified⟩ :=
          List.exists_of_modify (fun writer => writer.write text) isOpen
        rw [writers_eq] at reachable
        rw [modified]
        exact reachable.write text
      · rw [List.modify_eq_self (Nat.le_of_not_lt isOpen)]
        exact reachable
  | release index =>
      rw [Operation.perform]
      cases found : state.writers[index]? with
      | none => exact reachable
      | some writer =>
          obtain ⟨isOpen, rfl⟩ := List.getElem?_eq_some_iff.mp found
          rw [← List.take_append_drop index state.writers, List.drop_eq_getElem_cons isOpen]
            at reachable
          simp only [List.eraseIdx_eq_take_drop_succ]
          exact reachable.commit

theorem reachable_performAll
    (reachable : Reachable state.store state.writers)
    (operations : List Operation) :
    Reachable (perform operations state).store (perform operations state).writers := by
  induction operations generalizing state with
  | nil => exact reachable
  | cons operation rest inductionHypothesis =>
      exact inductionHypothesis (reachable_perform reachable operation)

/-- What operations make of an empty store is reachable. -/
theorem reachable_of_fresh (surface : Surface) (operations : List Operation) :
    Reachable (perform operations (fresh surface)).store
      (perform operations (fresh surface)).writers :=
  reachable_performAll (.empty surface) operations

theorem WellFormed.nodup_paths {store : Store} (wellFormed : store.WellFormed) :
    store.paths.Nodup := by
  have paths_eq : store.paths = (store.entries.map Prod.fst).map Location.toPath := by
    rw [List.map_map]
    rfl
  rw [paths_eq]
  refine wellFormed.distinct.map_on fun left leftMember right rightMember same => ?_
  obtain ⟨⟨_, _⟩, leftHeld, rfl⟩ := List.mem_map.mp leftMember
  obtain ⟨⟨_, _⟩, rightHeld, rfl⟩ := List.mem_map.mp rightMember
  exact Location.toPath_inj (wellFormed.proper leftHeld) (wellFormed.proper rightHeld) same

/-- Reading the path of an entry part by part changes nothing. -/
theorem WellFormed.path_normal
    {store : Store}
    {path : String}
    (wellFormed : store.WellFormed)
    (member : path ∈ store.paths) :
    (Location.ofPath path).toPath = path := by
  obtain ⟨⟨location, entry⟩, held, rfl⟩ := List.mem_map.mp member
  rw [Location.ofPath_toPath (wellFormed.proper held)]

/-! ## What fits -/

/-- An operation keeps a store housed exactly if it fits. -/
theorem housed_perform_iff (housed : state.store.Housed) (operation : Operation) :
    (operation.perform state).store.Housed ↔ operation.Fits state := by
  cases operation with
  | withDirectory path => exact housed.withDirectory_iff
  | withFile path content => exact housed.withEntry_iff fun equal => nomatch equal
  | withLink path target => exact housed.withEntry_iff fun equal => nomatch equal
  | makeDirectory path =>
      rw [Operation.perform, Operation.Fits]
      cases made : state.store.makeDirectory path with
      | error error =>
          refine iff_of_true housed ?_
          rintro ⟨after, accepted⟩
          cases accepted
      | ok after =>
          obtain ⟨_, _, rfl⟩ := makeDirectory_eq_ok_iff.mp made
          refine housed.put_iff.trans ⟨fun fits _ => fits.1, fun fits => ⟨fits ⟨_, rfl⟩, .inl rfl⟩⟩
  | removeFile path =>
      rw [Operation.perform]
      refine iff_of_true ?_ trivial
      cases removed : state.store.removeFile path with
      | error error => exact housed
      | ok after => exact housed.removed removed
  | openWrite path =>
      rw [Operation.perform, Operation.Fits]
      cases opened : state.store.openWrite path with
      | error error =>
          refine iff_of_true housed ?_
          rintro ⟨after, accepted⟩
          cases accepted
      | ok pair =>
          obtain ⟨writer, after⟩ := pair
          obtain ⟨noDirectory, _, rfl, rfl⟩ := openWrite_eq_ok_iff.mp opened
          have vacant : state.store.Vacant (state.store.resolve path) :=
            or_iff_not_imp_left.mpr fun below => housed.namesIn_eq_nil below noDirectory
          exact housed.put_iff.trans
            ⟨fun fits _ => fits.1, fun fits => ⟨fits ⟨_, rfl⟩, .inr vacant⟩⟩
  | write index text => exact iff_of_true housed trivial
  | release index =>
      rw [Operation.perform, Operation.Fits]
      cases found : state.writers[index]? with
      | none =>
          refine iff_of_true housed ?_
          rintro writer ⟨⟩
      | some writer =>
          refine housed.put_iff.trans ⟨fun fits other same => ?_, fun fits => ?_⟩
          · rw [← Option.some.inj same]
            exact ⟨fits.1, fits.2.resolve_left fun equal => nomatch equal⟩
          · exact ⟨(fits writer rfl).1, .inr (fits writer rfl).2⟩

/-- A store stays housed through some operations exactly if all of them fit. -/
theorem housed_throughout_iff (housed : state.store.Housed) (operations : List Operation) :
    (∀ earlier, earlier <+: operations → (perform earlier state).store.Housed) ↔
      AllFit state operations := by
  induction operations generalizing state with
  | nil =>
      refine iff_of_true (fun earlier isEarlier => ?_) trivial
      rw [List.prefix_nil.mp isEarlier]
      exact housed
  | cons operation rest inductionHypothesis =>
      rw [AllFit, ← housed_perform_iff housed]
      constructor
      · intro throughout
        have now := throughout [operation] (List.prefix_append [operation] rest)
        refine ⟨now, (inductionHypothesis now).mp fun earlier isEarlier => ?_⟩
        exact throughout (operation :: earlier) (List.cons_prefix_cons.mpr ⟨rfl, isEarlier⟩)
      · rintro ⟨now, later⟩ earlier isEarlier
        cases earlier with
        | nil => exact housed
        | cons first others =>
            obtain ⟨rfl, isLater⟩ := List.cons_prefix_cons.mp isEarlier
            exact (inductionHypothesis now).mpr later others isLater

/-- Whatever operations make of an empty store, the paths of its entries are pairwise different
and in normal form.  All along, every entry lies in the root or in a directory exactly if all
operations fit; and in such a store the listings of directories lead from the root to every
file. -/
theorem stays_tree_iff (surface : Surface) (operations : List Operation) :
    let store := (perform operations (fresh surface)).store
    (store.paths.Nodup ∧ ∀ path ∈ store.paths, (Location.ofPath path).toPath = path) ∧
      ((∀ earlier, earlier <+: operations → (perform earlier (fresh surface)).store.Housed) ↔
        AllFit (fresh surface) operations) ∧
      (store.Housed → ∀ path, store.isFile path = .ok true →
        Scan.Leads store "" (store.resolve path) ∧
          store.resolve (Path.descend "" (store.resolve path)) = store.resolve path) := by
  intro store
  have wellFormed : store.WellFormed := (reachable_of_fresh surface operations).wellFormed
  have nothing : (fresh surface).store.Housed := by
    rintro pair ⟨⟩
  exact ⟨⟨wellFormed.nodup_paths, fun path member => wellFormed.path_normal member⟩,
    housed_throughout_iff nothing operations,
    fun housed path file => housed.leads_to_file wellFormed file⟩

/-- A directory can be made below a file, which no listing then leads to. -/
theorem file_holds_directory :
    let store := (perform [.withFile "a" "x", .makeDirectory "a/b"] (fresh .fileSystem)).store
    store.isFile "a" = .ok true ∧
      store.isDirectory "a/b" = .ok true ∧
        store.list "a" = .error (.notADirectory "a") ∧ ¬store.Housed := by
  refine ⟨by decide +kernel, by decide +kernel, by decide +kernel, by decide +kernel⟩

end Store
end Baseline
