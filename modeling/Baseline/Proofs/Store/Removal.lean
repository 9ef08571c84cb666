import Baseline.Proofs.Store.Changes

/-!
# Removing files

A file is removed where its path leads, through links also at the last name: links are other
paths of an entry and stay when the entry goes.  Nothing else is removed, every other path
answers as before, and a removal that is refused changes nothing (`removal_spares_others`).  So
the name in the path is the name that is removed unless there is a link behind it
(`removal_leaves_link`).
-/

namespace Baseline
namespace Store

variable
  {store after : Store}
  {path other : String}
  {location directory : Location}
  {writers : List Writer}
  {names : List String}

/-- Nothing is gone but the entry at the location. -/
structure RemovedAt (store after : Store) (location : Location) : Prop where
  /-- No entry is at the location. -/
  gone : after.find? location = none
  /-- The other entries are there with what they hold. -/
  find?_eq {kept : Location} : kept ≠ location → after.find? kept = store.find? kept
  /-- All paths lead where they led. -/
  resolve_eq (other : String) : after.resolve other = store.resolve other
  /-- Paths that lead elsewhere get the same answers. -/
  elsewhere {other : String} :
    store.resolve other ≠ location →
    after.read other = store.read other ∧
      after.isFile other = store.isFile other ∧ after.isDirectory other = store.isDirectory other
  /-- All listings keep their names in order, except for the name of the location. -/
  list_eq {other : String} {names : List String} :
    store.list other = .ok names →
    after.list other = .ok (names.filter fun name => store.resolve other ++ [name] ≠ location)

theorem WellFormed.namesIn_erase
    (wellFormed : store.WellFormed)
    (location directory : Location) :
    (store.erase location).namesIn directory =
      (store.namesIn directory).filter fun name => directory ++ [name] ≠ location := by
  rw [namesIn_eq_filterMap, namesIn_eq_filterMap, map_fst_erase,
    wellFormed.distinct.erase_eq_filter, List.filterMap_filter, List.filter_filterMap]
  refine List.filterMap_congr fun kept _ => ?_
  cases named : nameIn? directory kept with
  | none => simp
  | some name =>
      rw [nameIn?_eq_some_iff.mp named]
      simp [Option.filter]

/-! ## What a removal changes -/

theorem WellFormed.removedAt
    (wellFormed : store.WellFormed)
    (removed : store.removeFile path = .ok after) :
    store.RemovedAt after (store.resolve path) := by
  have resolve_eq := wellFormed.resolve_removed removed
  obtain ⟨content, held, rfl⟩ := removeFile_eq_ok_iff.mp removed
  have notDirectory : store.find? (store.resolve path) ≠ some .directory := by
    rw [read_eq_some_iff.mp held]
    rintro ⟨⟩
  refine ⟨wellFormed.find?_erase_self _, find?_erase_of_ne, resolve_eq,
    answers_eq_of_ne (resolve_eq _) fun _ => find?_erase_of_ne, fun listed => ?_⟩
  rw [list_eq_of_listed (resolve_eq _) (fun _ => find?_erase_of_ne) notDirectory listed,
    wellFormed.namesIn_erase, (Scan.list_eq_ok_iff.mp listed).2]

/-- With no link at a name, the path with that name leads to the name in the directory that the
path before it leads to. -/
theorem resolve_eq_of_unlinked
    {name : String}
    (path_eq : Location.ofPath path = directory ++ [name])
    (unlinked : store.Unlinked (store.resolveLocation directory ++ [name])) :
    store.resolve path = store.resolveLocation directory ++ [name] := by
  rw [resolve, path_eq, resolveLocation_append]
  exact follow_of_ne_link unlinked linkLimit

theorem RemovedAt.not_mem_namesIn
    {name : String}
    (removed : store.RemovedAt after (directory ++ [name])) :
    name ∉ after.namesIn directory := by
  intro listed
  obtain ⟨other, entry, member, inside, last⟩ := mem_namesIn.mp listed
  obtain ⟨held, found⟩ := exists_find?_of_mem member
  rw [eq_append_of_parent_eq inside last, removed.gone] at found
  cases found

/-- A removal succeeds exactly where a file is read, and removes the entry that the path leads
to and nothing else.  The name at the end of the path is gone from its directory, unless there is
a link at it.  A removal that is refused changes nothing. -/
theorem removal_spares_others (reachable : Reachable store writers) (path : String) :
    let removal := (FileAccess.removeFile path : FileAction Store Unit).run store
    (removal.1 = .ok () ↔ ∃ content, store.read path = some content) ∧
      (removal.1 = .ok () →
        store.RemovedAt removal.2 (store.resolve path) ∧
          ∀ directory name, Location.ofPath path = directory ++ [name] →
            store.Unlinked (store.resolveLocation directory ++ [name]) →
              store.resolve path = store.resolveLocation directory ++ [name] ∧
                name ∉ removal.2.namesIn (store.resolveLocation directory)) ∧
        (removal.1 ≠ .ok () → removal.2 = store) := by
  intro removal
  cases removing : store.removeFile path with
  | error error =>
      have ran : removal = (.error error, store) :=
        Action.run_attempt_of_error (by rw [removing]; rfl)
      have refused : removal.1 ≠ .ok () := by
        rw [ran]
        rintro ⟨⟩
      refine ⟨iff_of_false refused ?_, fun done => absurd done refused, fun _ => by rw [ran]⟩
      rintro ⟨content, held⟩
      rw [removeFile_eq_ok_iff.mpr ⟨content, held, rfl⟩] at removing
      cases removing
  | ok after =>
      have ran : removal = (.ok (), after) :=
        Action.run_attempt_of_ok (by rw [removing]; rfl)
      obtain ⟨content, held, _⟩ := removeFile_eq_ok_iff.mp removing
      have removed := reachable.wellFormed.removedAt removing
      rw [ran]
      refine ⟨iff_of_true rfl ⟨content, held⟩, fun _ => ⟨removed, ?_⟩,
        fun refused => absurd rfl refused⟩
      intro directory name path_eq unlinked
      have leads := resolve_eq_of_unlinked path_eq unlinked
      rw [leads] at removed
      exact ⟨leads, removed.not_mem_namesIn⟩

/-- A directory with two files, and a link to the directory. -/
def linkedPair : Store :=
  linkedFolder.withFile "d/b" "y"

/-- One of the files is removed through the link, and the other one stays. -/
theorem removal_spares_linkedPair :
    Reachable linkedPair [] ∧
      ∃ after,
        (FileAccess.removeFile "l/a" : FileAction Store Unit).run linkedPair = (.ok (), after) ∧
          after.list "d" = .ok ["b"] ∧ after.read "d/b" = some "y" := by
  have reachable : Reachable linkedPair [] :=
    .withFile _ _ (.withLink _ _ (.withFile _ _ (.empty _)))
  have held : linkedPair.read "l/a" = some "old" := by decide +kernel
  have listed : linkedPair.list "d" = .ok ["a", "b"] := by decide +kernel
  obtain ⟨done, changes, _⟩ := removal_spares_others reachable "l/a"
  have succeeded := done.mpr ⟨_, held⟩
  have removed := (changes succeeded).1
  refine ⟨reachable, _, Prod.ext succeeded rfl, ?_, ?_⟩
  · rw [removed.list_eq listed]
    decide +kernel
  · rw [(removed.elsewhere (by decide +kernel)).1]
    decide +kernel

/-- A file, and a link to it in the same directory. -/
def linkedFile : Store :=
  (empty.withFile "a" "x").withLink "l" "a"

/-- Removing the link removes the file and leaves the link listed. -/
theorem removal_leaves_link :
    Reachable linkedFile [] ∧
      Location.ofPath "l" = [] ++ ["l"] ∧
        ∃ after,
          (FileAccess.removeFile "l" : FileAction Store Unit).run linkedFile = (.ok (), after) ∧
            after.list "" = .ok ["l"] ∧
              linkedFile.read "a" = some "x" ∧ after.present "a" = false := by
  have removing : linkedFile.removeFile "l" = .ok (linkedFile.erase (linkedFile.resolve "l")) :=
    removeFile_eq_ok_iff.mpr ⟨"x", by decide +kernel, rfl⟩
  exact ⟨.withLink _ _ (.withFile _ _ (.empty _)), by decide +kernel, _,
    Action.run_attempt_of_ok (by rw [removing]; rfl),
    by decide +kernel, by decide +kernel, by decide +kernel⟩

end Store
end Baseline
