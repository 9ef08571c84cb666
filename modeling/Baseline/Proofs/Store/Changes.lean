import Baseline.Proofs.Action
import Baseline.Proofs.Store.Answers
import Baseline.Proofs.Store.Housed

/-!
# What a change shows at each path

Links give an entry any number of paths, and a change of the entry shows at all of them.  As
long as no link is put or replaced, every path leads where it did (`resolve_put`), so what is
written through one path is read through all paths that lead to the same location, all other
paths answer as before, and a new entry comes last in the listing of its directory
(`changes_reach_aliases`).
-/

namespace Baseline

/-- What is written to a file with one call. -/
inductive Written
  /-- A text as it is. -/
  | plain (text : String)
  /-- A text and a line feed. -/
  | line (text : String)

/-- How an open file is released. -/
inductive Release
  /-- It is closed. -/
  | close
  /-- It is dropped. -/
  | drop

/-- What the file gets. -/
def Written.content : Written → String
  | .plain text => text
  | .line text => text ++ "\n"

/-- Write to an open file. -/
def Written.write {σ : Type} [FileAccess σ] (writer : FileAccess.Writer σ) :
    Written → FileAction σ (FileAccess.Writer σ)
  | .plain text => FileAccess.write writer text
  | .line text => do FileAccess.write (← FileAccess.write writer text) "\n"

/-- Release an open file. -/
def Release.act {σ : Type} [FileAccess σ] (writer : FileAccess.Writer σ) :
    Release → FileAction σ Unit
  | .close => FileAccess.closeWriter writer
  | .drop => ExceptT.lift (FileAccess.discardWriter writer)

/-- Open a file, write to it and release it, with no other operation between. -/
def writePieces {σ : Type} [FileAccess σ] (path : String) (pieces : List Written)
    (release : Release) : FileAction σ Unit := do
  let writer ← FileAccess.openWrite path
  let written ← pieces.foldlM Written.write writer
  release.act written

namespace Store

variable
  {store after : Store}
  {path other : String}
  {location directory : Location}
  {entry : Entry}
  {names : List String}

/-- The location holds no link. -/
def Unlinked (store : Store) (location : Location) : Prop :=
  ∀ target, store.find? location ≠ some (.link target)

/-- The name that a directory lists anew when an entry is put at the location. -/
def addedName (store : Store) (location directory : Location) : List String :=
  if (store.find? location).isSome then [] else (nameIn? directory location).toList

/-! ## Where paths lead -/

/-- Putting an entry that is no link in place of one that is none changes no path. -/
theorem resolve_put
    (unlinked : store.Unlinked location)
    (noLink : ∀ target, entry ≠ .link target)
    (path : String) :
    (store.put location entry).resolve path = store.resolve path := by
  refine resolve_eq_of_links (fun found target => ?_) path
  by_cases here : found = location
  · rw [here, find?_put_self]
    exact iff_of_false (fun linked => noLink target (Option.some.inj linked)) (unlinked target)
  · rw [find?_put_of_ne here]

/-! ## Listings -/

/-- An entry that is put keeps the place of the one before it, or comes last. -/
theorem namesIn_put (store : Store) (location directory : Location) (entry : Entry) :
    (store.put location entry).namesIn directory =
      store.namesIn directory ++ store.addedName location directory := by
  rw [namesIn_eq_filterMap, namesIn_eq_filterMap, put, addedName]
  by_cases member : location ∈ store.entries.map Prod.fst
  · obtain ⟨⟨_, held⟩, there, rfl⟩ := List.mem_map.mp member
    obtain ⟨found, found_eq⟩ := exists_find?_of_mem there
    rw [map_fst_putEntry_of_mem member, found_eq, Option.isSome_some, if_pos rfl,
      List.append_nil]
  · rw [putEntry_of_not_mem member, List.map_append, List.filterMap_append,
      find?_eq_none member, Option.isSome_none, if_neg Bool.false_ne_true]
    cases named : nameIn? directory location with
    | none => rw [List.map_singleton, List.filterMap_cons_none named]; rfl
    | some name => rw [List.map_singleton, List.filterMap_cons_some named]; rfl

/-! ## A change at one location -/

section

variable
  (leads : after.resolve other = store.resolve other)
  (same : ∀ kept, kept ≠ location → after.find? kept = store.find? kept)

include leads same

theorem lookup_eq_of_ne (away : store.resolve other ≠ location) :
    after.lookup other = store.lookup other := by
  rw [lookup_eq_entryAt, lookup_eq_entryAt, leads, entryAt_eq_of_find?_eq (same _ away)]

/-- Paths that lead elsewhere see nothing of a change. -/
theorem answers_eq_of_ne (away : store.resolve other ≠ location) :
    after.read other = store.read other ∧
      after.isFile other = store.isFile other ∧ after.isDirectory other = store.isDirectory other := by
  constructor
  · rw [read, read, leads, same _ away]
  · simp only [isFile, isDirectory, lookupOrFail, lookup_eq_of_ne leads same away, and_self]

/-- If no directory was changed, the same directories can be listed. -/
theorem list_eq_of_listed
    (notDirectory : store.find? location ≠ some .directory)
    (listed : store.list other = .ok names) :
    after.list other = .ok (after.namesIn (store.resolve other)) := by
  have isDirectory := (Scan.list_eq_ok_iff.mp listed).1
  refine Scan.list_eq_ok_iff.mpr ⟨?_, by rw [leads]⟩
  by_cases root : store.resolve other = []
  · rw [lookup_eq_entryAt, leads, root]
    rfl
  · have away : store.resolve other ≠ location := by
      rintro rfl
      rw [lookup_of_resolve_ne_nil root] at isDirectory
      exact notDirectory isDirectory
    rw [lookup_eq_of_ne leads same away, isDirectory]

end

/-! ## Writing and making directories -/

theorem write_run (piece : Written) (writer : Writer) (store : Store) :
    (piece.write (σ := Store) writer).run store = (.ok (writer.write piece.content), store) := by
  cases piece with
  | plain text => rfl
  | line text =>
      rw [Written.content, Writer.write, ← String.append_assoc]
      rfl

theorem foldlM_write_run (pieces : List Written) (writer : Writer) (store : Store) :
    (pieces.foldlM (Written.write (σ := Store)) writer).run store =
      (.ok (writer.write (String.join (pieces.map Written.content))), store) := by
  induction pieces generalizing writer with
  | nil =>
      rw [List.map_nil, String.join_nil, Writer.write, String.append_empty]
      rfl
  | cons piece rest inductionHypothesis =>
      rw [List.foldlM_cons, Action.run_bind_of_ok (write_run piece writer store),
        inductionHypothesis, Writer.write, Writer.write, Writer.write, String.append_assoc,
        List.map_cons, String.join_cons]

theorem release_run (release : Release) (writer : Writer) (store : Store) :
    (release.act (σ := Store) writer).run store = (.ok (), writer.commit store) := by
  cases release <;> rfl

/-- If a file can be opened for writing, what is written to it becomes its content. -/
theorem writePieces_run
    {opened : Writer × Store}
    (opening : store.openWrite path = .ok opened)
    (pieces : List Written)
    (release : Release) :
    (writePieces path pieces release : FileAction Store Unit).run store =
      (.ok (), store.put (store.resolve path)
        (.file (String.join (pieces.map Written.content)))) := by
  obtain ⟨writer, emptied⟩ := opened
  obtain ⟨_, _, rfl, rfl⟩ := openWrite_eq_ok_iff.mp opening
  have open_run : (FileAccess.openWrite path : FileAction Store _).run store = (.ok _, _) :=
    Action.run_attempt_of_ok opening
  rw [writePieces, Action.run_bind_of_ok open_run, Action.run_bind_of_ok (foldlM_write_run _ _ _),
    release_run, Writer.commit, Writer.write, String.empty_append, put_put]

/-- The whole text is read at the path, also through a file that is opened for it. -/
def Holds (store : Store) (path text : String) : Prop :=
  store.read path = some text ∧
    ∃ reader, store.openRead path = .ok reader ∧ reader.readRest.1 = text

theorem holds_of_find?
    {text : String}
    (found : store.find? (store.resolve path) = some (.file text)) :
    store.Holds path text := by
  have held := read_eq_some_iff.mpr found
  exact ⟨held, _, openRead_of_read held, String.ofList_toList⟩

/-- Nothing changed but what the paths to the location show. -/
structure ChangedAt (store after : Store) (location : Location) : Prop where
  /-- All paths lead where they led. -/
  resolve_eq (other : String) : after.resolve other = store.resolve other
  /-- Paths that lead elsewhere get the same answers. -/
  elsewhere {other : String} :
    store.resolve other ≠ location →
    after.read other = store.read other ∧
      after.isFile other = store.isFile other ∧ after.isDirectory other = store.isDirectory other
  /-- All listings keep their names in order, and a name that is new comes last. -/
  list_eq {other : String} {names : List String} :
    store.list other = .ok names →
    after.list other = .ok (names ++ store.addedName location (store.resolve other))

theorem changedAt_put
    (unlinked : store.Unlinked location)
    (noLink : ∀ target, entry ≠ .link target)
    (notDirectory : store.find? location ≠ some .directory) :
    store.ChangedAt (store.put location entry) location where
  resolve_eq := resolve_put unlinked noLink
  elsewhere := answers_eq_of_ne (resolve_put unlinked noLink _) fun _ => find?_put_of_ne
  list_eq listed := by
    rw [list_eq_of_listed (resolve_put unlinked noLink _) (fun _ => find?_put_of_ne) notDirectory
      listed, namesIn_put, (Scan.list_eq_ok_iff.mp listed).2]

/-- A directory is made only where nothing is, so it replaces no link and no content. -/
theorem changedAt_and_read_eq_of_made (made : store.makeDirectory path = .ok after) :
    store.ChangedAt after (store.resolve path) ∧ ∀ other, after.read other = store.read other := by
  obtain ⟨absent, _, rfl⟩ := makeDirectory_eq_ok_iff.mp made
  have unlinked : store.Unlinked (store.resolve path) := by
    rw [Unlinked, absent]
    exact fun target equal => nomatch equal
  have notDirectory : store.find? (store.resolve path) ≠ some .directory := by
    rw [absent]
    exact (Option.some_ne_none _).symm
  have changed : store.ChangedAt (store.put (store.resolve path) .directory) (store.resolve path) :=
    changedAt_put unlinked (fun target equal => nomatch equal) notDirectory
  refine ⟨changed, fun other => ?_⟩
  by_cases here : store.resolve other = store.resolve path
  · rw [read, read, changed.resolve_eq, here, find?_put_self, absent]
  · exact (changed.elsewhere here).1

/-- The paths that lead to a directory that is made become paths of a directory, and no others
do.  Below the root none of them was one before. -/
theorem isDirectory_iff_of_made
    (made : store.makeDirectory path = .ok after)
    (other : String) :
    (after.isDirectory other = .ok true ↔
      store.isDirectory other = .ok true ∨ store.resolve other = store.resolve path) ∧
      (store.resolve path ≠ [] → store.resolve other = store.resolve path →
        store.isDirectory other ≠ .ok true) := by
  have changed := (changedAt_and_read_eq_of_made made).1
  obtain ⟨absent, _, rfl⟩ := makeDirectory_eq_ok_iff.mp made
  by_cases here : store.resolve other = store.resolve path
  · have leads : (store.put (store.resolve path) .directory).entryAt (store.resolve path) =
        some .directory := by
      cases store.resolve path with
      | nil => rfl
      | cons name rest => exact find?_put_self store _ _
    refine ⟨iff_of_true ?_ (.inr here), fun below _ => ?_⟩
    · rw [Scan.isDirectory_eq_ok_true_iff, lookup_eq_entryAt, changed.resolve_eq, here, leads]
    · rw [ne_eq, Scan.isDirectory_eq_ok_true_iff, lookup_eq_entryAt, here, entryAt_of_ne_nil below,
        absent]
      exact (Option.some_ne_none _).symm
  · rw [(changed.elsewhere here).2.2, or_iff_left here]
    exact ⟨Iff.rfl, fun _ same => absurd same here⟩

/-- What is written through a path whose location holds no link is read through every path that
leads there.  All other paths answer as before.  A directory that is made is one for exactly the
paths that lead to it, and no content changes.  Every listing goes on as it was, a new name
coming last. -/
theorem changes_reach_aliases (unlinked : store.Unlinked (store.resolve path)) :
    (∀ opened, store.openWrite path = .ok opened →
      ∀ pieces release, ∃ after,
        (writePieces path pieces release : FileAction Store Unit).run store = (.ok (), after) ∧
          store.ChangedAt after (store.resolve path) ∧
            ∀ other, store.resolve other = store.resolve path →
              after.Holds other (String.join (pieces.map Written.content))) ∧
      ∀ after, store.makeDirectory path = .ok after →
        store.ChangedAt after (store.resolve path) ∧
          (∀ other, after.read other = store.read other) ∧
            ∀ other,
              (after.isDirectory other = .ok true ↔
                store.isDirectory other = .ok true ∨ store.resolve other = store.resolve path) ∧
                (store.resolve path ≠ [] → store.resolve other = store.resolve path →
                  store.isDirectory other ≠ .ok true) := by
  constructor
  · rintro ⟨writer, emptied⟩ opening pieces release
    obtain ⟨notDirectory, _⟩ := openWrite_eq_ok_iff.mp opening
    have changed : store.ChangedAt
        (store.put (store.resolve path) (.file (String.join (pieces.map Written.content))))
        (store.resolve path) :=
      changedAt_put unlinked (fun target equal => nomatch equal) notDirectory
    refine ⟨_, writePieces_run opening pieces release, changed, fun other same => ?_⟩
    apply holds_of_find?
    rw [changed.resolve_eq, same, find?_put_self]
  · intro after made
    obtain ⟨changed, unread⟩ := changedAt_and_read_eq_of_made made
    exact ⟨changed, unread, isDirectory_iff_of_made made⟩

/-- A directory with a file, and a link to the directory. -/
def linkedFolder : Store :=
  (empty.withFile "d/a" "old").withLink "l" "d"

/-- A file that is written through the link is read in the directory, and a directory made
through the link is listed after the file. -/
theorem changes_reach_linkedFolder :
    linkedFolder.Unlinked (linkedFolder.resolve "l/a") ∧
      (∃ after,
        (writePieces "l/a" [.plain "x", .line "y"] .drop : FileAction Store Unit).run linkedFolder =
            (.ok (), after) ∧
          after.Holds "d/a" "xy\n" ∧ after.list "d" = .ok ["a"]) ∧
        linkedFolder.Unlinked (linkedFolder.resolve "l/b") ∧
          ∃ after, linkedFolder.makeDirectory "l/b" = .ok after ∧
            after.isDirectory "d/b" = .ok true ∧ after.list "d" = .ok ["a", "b"] := by
  have file : linkedFolder.find? (linkedFolder.resolve "l/a") = some (.file "old") := by
    decide +kernel
  have nothing : linkedFolder.find? (linkedFolder.resolve "l/b") = none := by decide +kernel
  have listed : linkedFolder.list "d" = .ok ["a"] := by decide +kernel
  have fileUnlinked : linkedFolder.Unlinked (linkedFolder.resolve "l/a") := by
    rw [Unlinked, file]
    exact fun target equal => nomatch equal
  have nothingUnlinked : linkedFolder.Unlinked (linkedFolder.resolve "l/b") := by
    rw [Unlinked, nothing]
    exact fun target equal => nomatch equal
  have opening : linkedFolder.openWrite "l/a" = .ok (⟨["d", "a"], ""⟩, _) :=
    openWrite_eq_ok_iff.mpr ⟨by decide +kernel, by decide +kernel, by decide +kernel, rfl⟩
  have making : linkedFolder.makeDirectory "l/b" = .ok _ :=
    makeDirectory_eq_ok_iff.mpr ⟨nothing, by decide +kernel, rfl⟩
  obtain ⟨after, ran, changed, holds⟩ :=
    (changes_reach_aliases fileUnlinked).1 _ opening [.plain "x", .line "y"] .drop
  obtain ⟨made, _, isDirectory⟩ := (changes_reach_aliases nothingUnlinked).2 _ making
  refine ⟨fileUnlinked, ⟨after, ran, ?_, ?_⟩, nothingUnlinked, _, making, ?_, ?_⟩
  · exact holds "d/a" (by decide +kernel)
  · rw [changed.list_eq listed]
    decide +kernel
  · exact (isDirectory "d/b").1.mpr (.inr (by decide +kernel))
  · rw [made.list_eq listed]
    decide +kernel

end Store
end Baseline
