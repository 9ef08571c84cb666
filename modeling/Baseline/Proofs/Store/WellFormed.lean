import Baseline.Proofs.Location
import Baseline.Proofs.Store.Files
import Mathlib.Data.List.Induction
import Mathlib.Data.List.Nodup

/-!
# Stores that operations can reach

`Reachable` stores are made from the empty one by the operations of a store, with
any number of files open for writing.  In each of them no two entries have one
location, and all names are proper (`Reachable.wellFormed`).
-/

namespace Baseline
namespace Store

variable {store : Store} {location : Location} {entry : Entry}

/-- No two entries have one location, and the locations of entries and the targets
of links have proper names. -/
structure WellFormed (store : Store) : Prop where
  /-- The locations of the entries are pairwise different. -/
  distinct : (store.entries.map Prod.fst).Nodup
  /-- The location of an entry has proper names. -/
  proper {location : Location} {entry : Entry} :
    (location, entry) ∈ store.entries → location.Proper
  /-- The target of a link has proper names. -/
  target_proper {location target : Location} :
    (location, Entry.link target) ∈ store.entries → target.Proper

/-- Every entry is found at its location. -/
theorem WellFormed.find?_eq_some_iff (wellFormed : store.WellFormed) :
    store.find? location = some entry ↔ (location, entry) ∈ store.entries := by
  refine ⟨mem_of_find?_eq_some, fun member => ?_⟩
  obtain ⟨before, after, split⟩ := List.append_of_mem member
  refine List.lookup_eq_some_iff.mpr ⟨before, after, split, fun pair earlier => ?_⟩
  have distinct := wellFormed.distinct
  rw [split, List.map_append, List.map_cons, List.nodup_append] at distinct
  have different := distinct.2.2 pair.1 (List.mem_map_of_mem earlier) location List.mem_cons_self
  rw [bne_iff_ne]
  exact different.symm

/-! ## Adding and removing entries -/

theorem map_fst_putEntry_of_mem
    {entries : List (Location × Entry)}
    (member : location ∈ entries.map Prod.fst) :
    (putEntry location entry entries).map Prod.fst = entries.map Prod.fst := by
  induction entries with
  | nil => cases member
  | cons head rest inductionHypothesis =>
      obtain ⟨first, kept⟩ := head
      unfold putEntry
      by_cases same : first = location
      · rw [if_pos same, List.map_cons, List.map_cons, same]
      · have later := (List.mem_cons.mp member).resolve_left (Ne.symm same)
        rw [if_neg same, List.map_cons, List.map_cons, inductionHypothesis later]

theorem putEntry_of_not_mem
    {entries : List (Location × Entry)}
    (absent : location ∉ entries.map Prod.fst) :
    putEntry location entry entries = entries ++ [(location, entry)] := by
  induction entries with
  | nil => rfl
  | cons head rest inductionHypothesis =>
      obtain ⟨first, kept⟩ := head
      obtain ⟨different, later⟩ := not_or.mp (mt List.mem_cons.mpr absent)
      rw [putEntry, if_neg (Ne.symm different), inductionHypothesis later, List.cons_append]

theorem nodup_putEntry
    {entries : List (Location × Entry)}
    (distinct : (entries.map Prod.fst).Nodup) :
    ((putEntry location entry entries).map Prod.fst).Nodup := by
  by_cases member : location ∈ entries.map Prod.fst
  · rwa [map_fst_putEntry_of_mem member]
  · rw [putEntry_of_not_mem member, List.map_append, List.map_singleton]
    rw [List.nodup_append]
    refine ⟨distinct, List.nodup_singleton _, ?_⟩
    intro other present last lastMember equal
    rw [equal, List.mem_singleton.mp lastMember] at present
    exact member present

theorem WellFormed.put
    (wellFormed : store.WellFormed)
    (locationProper : location.Proper)
    (targetProper : ∀ target, entry = .link target → target.Proper) :
    (store.put location entry).WellFormed where
  distinct := nodup_putEntry wellFormed.distinct
  proper member := by
    rcases mem_putEntry member with equal | member
    · rwa [(Prod.mk.inj equal).1]
    · exact wellFormed.proper member
  target_proper member := by
    rcases mem_putEntry member with equal | member
    · exact targetProper _ (Prod.mk.inj equal).2.symm
    · exact wellFormed.target_proper member

theorem WellFormed.erase (wellFormed : store.WellFormed) (location : Location) :
    (store.erase location).WellFormed where
  distinct := wellFormed.distinct.sublist (List.eraseP_sublist.map Prod.fst)
  proper member := wellFormed.proper (List.mem_of_mem_eraseP member)
  target_proper member := wellFormed.target_proper (List.mem_of_mem_eraseP member)

theorem map_fst_erase (store : Store) (location : Location) :
    (store.erase location).entries.map Prod.fst = (store.entries.map Prod.fst).erase location := by
  rw [List.erase_eq_eraseP', List.eraseP_map]
  rfl

/-- No entry is left at the location of one that was erased. -/
theorem WellFormed.find?_erase_self (wellFormed : store.WellFormed) (location : Location) :
    (store.erase location).find? location = none := by
  apply find?_eq_none
  rw [map_fst_erase]
  exact wellFormed.distinct.not_mem_erase

/-! ## Where paths lead -/

theorem WellFormed.follow_proper
    (wellFormed : store.WellFormed)
    (locationProper : location.Proper)
    (hops : Nat) :
    (store.follow hops location).Proper := by
  induction hops generalizing location with
  | zero => exact locationProper
  | succ hops inductionHypothesis =>
      unfold follow
      split
      next target found =>
          exact inductionHypothesis (wellFormed.target_proper (mem_of_find?_eq_some found))
      next => exact locationProper

theorem WellFormed.step_proper
    {name : String}
    (wellFormed : store.WellFormed)
    (locationProper : location.Proper)
    (nameProper : Location.IsProper name) :
    (store.step location name).Proper :=
  wellFormed.follow_proper (locationProper.snoc nameProper) linkLimit

theorem resolveLocation_append (store : Store) (left right : Location) :
    store.resolveLocation (left ++ right) =
      right.foldl store.step (store.resolveLocation left) :=
  List.foldl_append

theorem WellFormed.resolveLocation_proper
    (wellFormed : store.WellFormed)
    (locationProper : location.Proper) :
    (store.resolveLocation location).Proper := by
  induction location using List.reverseRecOn with
  | nil => exact List.forall_mem_nil _
  | append_singleton front name inductionHypothesis =>
      have frontProper : Location.Proper front := fun other member =>
        locationProper other (List.mem_append_left _ member)
      have nameProper := locationProper name (List.mem_append_right _ List.mem_cons_self)
      rw [resolveLocation_append]
      exact wellFormed.step_proper (inductionHypothesis frontProper) nameProper

/-- A path leads to a location with proper names. -/
theorem WellFormed.resolve_proper (wellFormed : store.WellFormed) (path : String) :
    (store.resolve path).Proper :=
  wellFormed.resolveLocation_proper (Location.ofPath_proper path)

/-- The path of an entry leads where its name leads from the directory. -/
theorem resolve_join
    (store : Store)
    (directory : String)
    {name : String}
    (proper : Location.IsProper name) :
    store.resolve (Path.join directory "/" name) = store.step (store.resolve directory) name := by
  rw [resolve, Path.ofPath_join directory proper, resolveLocation_append]
  rfl

/-- Paths lead to the same locations in stores with the same links. -/
theorem resolve_eq_of_links
    {after : Store}
    (links : ∀ location target,
      after.find? location = some (.link target) ↔ store.find? location = some (.link target))
    (path : String) :
    after.resolve path = store.resolve path := by
  have follow_eq (hops : Nat) (location : Location) :
      after.follow hops location = store.follow hops location := by
    induction hops generalizing location with
    | zero => rfl
    | succ hops inductionHypothesis =>
        by_cases linked : ∃ target, store.find? location = some (.link target)
        · obtain ⟨target, found⟩ := linked
          simp only [follow, found, (links location target).mpr found]
          exact inductionHypothesis target
        · have unlinked := not_exists.mp linked
          rw [follow_of_ne_link unlinked,
            follow_of_ne_link fun target => mt (links location target).mp (unlinked target)]
  have step_eq : after.step = store.step := by
    funext directory name
    exact follow_eq _ _
  rw [resolve, resolve, resolveLocation, resolveLocation, step_eq]

theorem WellFormed.removed
    {after : Store}
    {path : String}
    (wellFormed : store.WellFormed)
    (removed : store.removeFile path = .ok after) :
    after.WellFormed := by
  obtain ⟨_, _, rfl⟩ := removeFile_eq_ok_iff.mp removed
  exact wellFormed.erase _

/-- A file that is removed is no link, so no path leads elsewhere without it. -/
theorem WellFormed.resolve_removed
    {after : Store}
    {path : String}
    (wellFormed : store.WellFormed)
    (removed : store.removeFile path = .ok after)
    (other : String) :
    after.resolve other = store.resolve other := by
  obtain ⟨content, held, rfl⟩ := removeFile_eq_ok_iff.mp removed
  rw [read_eq_some_iff] at held
  refine resolve_eq_of_links (fun location target => ?_) other
  by_cases here : location = store.resolve path
  · rw [here, wellFormed.find?_erase_self, held]
    simp
  · rw [find?_erase_of_ne here]

theorem WellFormed.written
    {after : Store}
    {path content : String}
    (wellFormed : store.WellFormed)
    (written : store.writeFile path content = .ok after) :
    after.WellFormed := by
  obtain ⟨_, _, rfl⟩ := writeFile_eq_ok_iff.mp written
  exact wellFormed.put (wellFormed.resolve_proper path) (by simp)

theorem mem_namesIn
    {directory : Location}
    {name : String} :
    name ∈ store.namesIn directory ↔
      ∃ location entry, (location, entry) ∈ store.entries ∧ location.parent = directory ∧
        location.getLast? = some name := by
  unfold namesIn
  rw [List.mem_filterMap]
  constructor
  · rintro ⟨⟨location, entry⟩, member, listed⟩
    change (if location.parent = directory then location.getLast? else none) = some name at listed
    by_cases inside : location.parent = directory
    · rw [if_pos inside] at listed
      exact ⟨location, entry, member, inside, listed⟩
    · rw [if_neg inside] at listed
      cases listed
  · rintro ⟨location, entry, member, inside, last⟩
    exact ⟨(location, entry), member, (if_pos inside).trans last⟩

/-- A location in a directory is told by its last name. -/
theorem eq_append_of_parent_eq
    {directory : Location}
    {name : String}
    (inside : location.parent = directory)
    (last : location.getLast? = some name) :
    location = directory ++ [name] := by
  obtain ⟨front, rfl⟩ := List.getLast?_eq_some_iff.mp last
  rw [← inside, Location.parent, List.dropLast_concat]

/-- The name of the location in a directory, if it lies in it. -/
def nameIn? (directory location : Location) : Option String :=
  if location.parent = directory then location.getLast? else none

theorem nameIn?_eq_some_iff {directory : Location} {name : String} :
    nameIn? directory location = some name ↔ location = directory ++ [name] := by
  unfold nameIn?
  constructor
  · intro named
    split at named
    next inside => exact eq_append_of_parent_eq inside named
    next => cases named
  · rintro rfl
    rw [Location.parent, List.dropLast_concat, if_pos rfl, List.getLast?_concat]

theorem namesIn_eq_filterMap (store : Store) (directory : Location) :
    store.namesIn directory = (store.entries.map Prod.fst).filterMap (nameIn? directory) := by
  rw [List.filterMap_map]
  rfl

/-- A directory lists every name once. -/
theorem WellFormed.nodup_namesIn (wellFormed : store.WellFormed) (directory : Location) :
    (store.namesIn directory).Nodup := by
  rw [namesIn_eq_filterMap]
  refine wellFormed.distinct.filterMap ?_
  intro left right name leftNamed rightNamed
  rw [nameIn?_eq_some_iff.mp leftNamed, nameIn?_eq_some_iff.mp rightNamed]

theorem WellFormed.name_proper
    {directory : Location}
    {name : String}
    (wellFormed : store.WellFormed)
    (listed : name ∈ store.namesIn directory) :
    Location.IsProper name := by
  obtain ⟨location, entry, member, _, last⟩ := mem_namesIn.mp listed
  exact wellFormed.proper member name (List.mem_of_getLast? last)

/-! ## Reachable stores -/

theorem WellFormed.insertDirectory
    (wellFormed : store.WellFormed)
    (locationProper : location.Proper) :
    (store.insertDirectory location).WellFormed := by
  fun_induction Store.insertDirectory store location with
  | case1 => exact wellFormed
  | case2 location _ inductionHypothesis =>
      exact (inductionHypothesis locationProper.parent).put locationProper (by simp)

theorem WellFormed.withEntry
    (wellFormed : store.WellFormed)
    (path : String)
    (targetProper : ∀ target, entry = .link target → target.Proper) :
    (store.withEntry path entry).WellFormed :=
  (wellFormed.insertDirectory (Location.ofPath_proper path).parent).put
    (Location.ofPath_proper path) targetProper

/-- A store that operations make from an empty one, with some files open for
writing. -/
inductive Reachable : Store → List Writer → Prop
  /-- An empty store. -/
  | empty (surface : Surface) : Reachable { surface } []
  /-- A directory is added at a path. -/
  | withDirectory {store : Store} {writers : List Writer} (path : String) :
      Reachable store writers → Reachable (store.withDirectory path) writers
  /-- A file is added at a path. -/
  | withFile {store : Store} {writers : List Writer} (path content : String) :
      Reachable store writers → Reachable (store.withFile path content) writers
  /-- A link is added at a path. -/
  | withLink {store : Store} {writers : List Writer} (path target : String) :
      Reachable store writers → Reachable (store.withLink path target) writers
  /-- A directory is made inside another. -/
  | makeDirectory {store after : Store} {writers : List Writer} {path : String} :
      Reachable store writers →
      store.makeDirectory path = .ok after →
      Reachable after writers
  /-- A file is removed. -/
  | removeFile {store after : Store} {writers : List Writer} {path : String} :
      Reachable store writers →
      store.removeFile path = .ok after →
      Reachable after writers
  /-- A file is opened for writing. -/
  | openWrite {store after : Store} {writers : List Writer} {path : String} {writer : Writer} :
      Reachable store writers →
      store.openWrite path = .ok (writer, after) →
      Reachable after (writer :: writers)
  /-- A text is written to an open file. -/
  | write {store : Store} {earlier later : List Writer} {writer : Writer} (text : String) :
      Reachable store (earlier ++ writer :: later) →
      Reachable store (earlier ++ writer.write text :: later)
  /-- An open file is closed or dropped. -/
  | commit {store : Store} {earlier later : List Writer} {writer : Writer} :
      Reachable store (earlier ++ writer :: later) →
      Reachable (writer.commit store) (earlier ++ later)

theorem Reachable.wellFormed_and_proper
    {writers : List Writer}
    (reachable : Reachable store writers) :
    store.WellFormed ∧ ∀ writer ∈ writers, writer.location.Proper := by
  induction reachable with
  | empty surface =>
      refine ⟨⟨List.nodup_nil, ?_, ?_⟩, List.forall_mem_nil _⟩
      · rintro _ _ ⟨⟩
      · rintro _ _ ⟨⟩
  | withDirectory path _ inductionHypothesis =>
      exact ⟨inductionHypothesis.1.insertDirectory (Location.ofPath_proper path),
        inductionHypothesis.2⟩
  | withFile path content _ inductionHypothesis =>
      exact ⟨inductionHypothesis.1.withEntry path (by simp), inductionHypothesis.2⟩
  | withLink path target _ inductionHypothesis =>
      refine ⟨inductionHypothesis.1.withEntry path ?_, inductionHypothesis.2⟩
      rintro _ ⟨⟩
      exact Location.ofPath_proper target
  | @makeDirectory store after _ path _ made inductionHypothesis =>
      refine ⟨?_, inductionHypothesis.2⟩
      simp only [Store.makeDirectory] at made
      split at made
      · cases made
      split at made
      · cases made
      rw [← Except.ok.inj made]
      exact inductionHypothesis.1.put (inductionHypothesis.1.resolve_proper path) (by simp)
  | removeFile _ removed inductionHypothesis =>
      exact ⟨inductionHypothesis.1.removed removed, inductionHypothesis.2⟩
  | @openWrite store after _ path writer _ opened inductionHypothesis =>
      have proper := inductionHypothesis.1.resolve_proper path
      simp only [Store.openWrite] at opened
      split at opened
      · cases opened
      split at opened
      · cases opened
      obtain ⟨rfl, rfl⟩ := Prod.mk.inj (Except.ok.inj opened)
      refine ⟨inductionHypothesis.1.put proper (by simp), ?_⟩
      exact List.forall_mem_cons.mpr ⟨proper, inductionHypothesis.2⟩
  | @write store earlier later writer text _ inductionHypothesis =>
      refine ⟨inductionHypothesis.1, ?_⟩
      have all := inductionHypothesis.2
      rw [List.forall_mem_append, List.forall_mem_cons] at all ⊢
      exact all
  | @commit store earlier later writer _ inductionHypothesis =>
      have all := inductionHypothesis.2
      rw [List.forall_mem_append, List.forall_mem_cons] at all
      refine ⟨inductionHypothesis.1.put all.2.1 (by simp), ?_⟩
      exact List.forall_mem_append.mpr ⟨all.1, all.2.2⟩

/-- Whatever operations make of an empty store is well formed. -/
theorem Reachable.wellFormed
    {writers : List Writer}
    (reachable : Reachable store writers) :
    store.WellFormed :=
  reachable.wellFormed_and_proper.1

end Store
end Baseline
