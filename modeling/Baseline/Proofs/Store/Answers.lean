import Baseline.Proofs.Answer
import Baseline.Proofs.Scan.Chains

/-!
# What a store answers

Whether a path is there, what kind of entry it leads to, and which operations it allows all
follow from the entry that is found at the end of its links, so the answers agree
(`questions_and_changes_agree`).  Two kinds of paths stand apart.  The root passes for a
directory without an entry of its own, so a directory or a file can still be put there; and a
chain of links that is longer than links are followed (`CutOff`) leads to a link, which is
neither a file nor a directory.
-/

namespace Baseline
namespace Store

open Answer (Fails fails_iff_forall_ne_ok)

variable
  {store after : Store}
  {path : String}
  {location target : Location}
  {entry : Entry}

/-! ## What each operation asks for -/

theorem openRead_eq_ok_iff {reader : Reader} :
    store.openRead path = .ok reader ↔
      ∃ content, store.read path = some content ∧ reader = ⟨content.toList⟩ := by
  constructor
  · intro opened
    unfold openRead at opened
    split at opened
    next content found =>
        exact ⟨content, read_eq_some_iff.mpr found, (Except.ok.inj opened).symm⟩
    next => cases opened
    next => cases opened
  · rintro ⟨content, held, rfl⟩
    exact openRead_of_read held

/-- A directory is made exactly where nothing is, if something is around it. -/
theorem makeDirectory_eq_ok_iff :
    store.makeDirectory path = .ok after ↔
      store.find? (store.resolve path) = none ∧
        (store.lookupLocation (store.resolve path).parent).isSome ∧
          after = store.put (store.resolve path) .directory := by
  simp only [makeDirectory]
  cases found : store.find? (store.resolve path) with
  | some entry => simp
  | none =>
      cases around : store.lookupLocation (store.resolve path).parent with
      | none => simp
      | some entry => simp [eq_comm]

/-- A file is opened for writing exactly where no directory is, if something is around it. -/
theorem openWrite_eq_ok_iff {writer : Writer} :
    store.openWrite path = .ok (writer, after) ↔
      store.find? (store.resolve path) ≠ some .directory ∧
        (store.lookupLocation (store.resolve path).parent).isSome ∧
          writer = ⟨store.resolve path, ""⟩ ∧
            after = store.put (store.resolve path) (.file "") := by
  simp only [openWrite]
  by_cases occupied : store.find? (store.resolve path) = some .directory
  · simp [occupied]
  · rw [if_neg occupied, and_iff_right occupied]
    cases around : store.lookupLocation (store.resolve path).parent with
    | none => simp
    | some entry => simp [eq_comm]

/-! ## Chains of links that are cut off -/

/-- The last name of the path starts a chain of links that is longer than links are
followed. -/
def CutOff (store : Store) (path : String) : Prop :=
  ∃ directory name,
    Location.ofPath path = directory ++ [name] ∧
      ∀ hops ≤ linkLimit, ∃ target,
        store.find? (store.follow hops (store.resolveLocation directory ++ [name])) =
          some (.link target)

theorem follow_of_link
    (found : store.find? location = some (.link target))
    (hops : Nat) :
    store.follow (hops + 1) location = store.follow hops target := by
  rw [follow, found]

/-- Links are followed to a link only through links. -/
theorem exists_link_of_follow
    {limit hops : Nat}
    (last : store.find? (store.follow limit location) = some (.link target))
    (within : hops ≤ limit) :
    ∃ next, store.find? (store.follow hops location) = some (.link next) := by
  induction limit generalizing location hops with
  | zero =>
      obtain rfl := Nat.le_zero.mp within
      exact ⟨target, last⟩
  | succ limit inductionHypothesis =>
      by_cases linked : ∃ next, store.find? location = some (.link next)
      · obtain ⟨next, found⟩ := linked
        rw [follow_of_link found] at last
        cases hops with
        | zero => exact ⟨next, found⟩
        | succ hops =>
            rw [follow_of_link found]
            exact inductionHypothesis last (Nat.le_of_succ_le_succ within)
      · rw [follow_of_ne_link fun next found => linked ⟨next, found⟩] at last
        exact absurd ⟨target, last⟩ linked

/-- A path leads to a link only if its chain of links is cut off. -/
theorem cutOff_of_lookup (linked : store.lookup path = some (.link target)) :
    store.CutOff path := by
  by_cases root : store.resolve path = []
  · rw [lookup_of_resolve_eq_nil root] at linked
    cases linked
  rw [lookup_of_resolve_ne_nil root] at linked
  rcases List.eq_nil_or_concat (Location.ofPath path) with empty | ⟨directory, name, path_eq⟩
  · rw [resolve, empty] at root
    exact absurd rfl root
  · rw [List.concat_eq_append] at path_eq
    rw [resolve, path_eq, resolveLocation_append] at linked
    exact ⟨directory, name, path_eq, fun hops within => exists_link_of_follow linked within⟩

/-! ## Where the answers agree -/

theorem fails_of_lookup_eq_none (absent : store.lookup path = none) :
    Fails (store.isFile path) ∧
      Fails (store.isDirectory path) ∧
        Fails (store.list path) ∧ Fails (store.canonicalPath path) := by
  have failed : store.lookupOrFail path = .error (.noEntry path) := by
    rw [lookupOrFail, absent]
  have noDirectory : store.isDirectory path = .error (.noEntry path) := by
    rw [isDirectory, failed]
    rfl
  refine ⟨⟨.noEntry path, ?_⟩, ⟨_, noDirectory⟩, ⟨.noEntry path, ?_⟩, ⟨.noEntry path, ?_⟩⟩
  · rw [isFile, failed]
    rfl
  · rw [list, noDirectory]
    rfl
  · rw [canonicalPath, failed]
    rfl

/-- A file can be neither read nor removed where none is. -/
theorem fails_of_read_eq_none (absent : store.read path = none) :
    Fails (store.openRead path) ∧ Fails (store.removeFile path) := by
  rw [fails_iff_forall_ne_ok, fails_iff_forall_ne_ok]
  constructor
  · intro reader opened
    obtain ⟨_, held, _⟩ := openRead_eq_ok_iff.mp opened
    rw [absent] at held
    cases held
  · intro after removed
    obtain ⟨_, held, _⟩ := removeFile_eq_ok_iff.mp removed
    rw [absent] at held
    cases held

theorem fails_makeDirectory (found : store.find? (store.resolve path) = some entry) :
    Fails (store.makeDirectory path) := by
  rw [fails_iff_forall_ne_ok]
  intro after made
  rw [(makeDirectory_eq_ok_iff.mp made).1] at found
  cases found

theorem read_of_lookup {content : String} (held : store.lookup path = some (.file content)) :
    store.read path = some content := by
  by_cases root : store.resolve path = []
  · rw [lookup_of_resolve_eq_nil root] at held
    cases held
  · rw [lookup_of_resolve_ne_nil root] at held
    exact read_eq_some_iff.mpr held

theorem read_eq_none_of_find?
    (found : store.find? (store.resolve path) = some .directory) :
    store.read path = none := by
  rw [read, found]

/-- What a store tells of a path and what can be done there agree.  A directory can be listed,
and below the root nothing else can be done with it; at the root itself a file may have been
put, and only that file is read or removed there.  A file can be read and removed, but neither
listed nor replaced by a directory.  What is there is a file or a directory, unless its chain of
links is cut off, and of what is not there nothing can be asked. -/
theorem questions_and_changes_agree (store : Store) (path : String) :
    (store.isDirectory path = .ok true →
        (∃ names, store.list path = .ok names) ∧
          (store.read path = none → Fails (store.openRead path) ∧ Fails (store.removeFile path)) ∧
            (store.resolve path ≠ [] →
              store.read path = none ∧
                Fails (store.openWrite path) ∧ Fails (store.makeDirectory path))) ∧
      (store.isFile path = .ok true →
        (∃ content after,
          store.read path = some content ∧
            store.openRead path = .ok ⟨content.toList⟩ ∧ store.removeFile path = .ok after) ∧
          Fails (store.list path) ∧ Fails (store.makeDirectory path)) ∧
        (store.present path = true →
          (store.isFile path = .ok true ∧ store.isDirectory path = .ok false) ∨
            (store.isFile path = .ok false ∧ store.isDirectory path = .ok true) ∨
              (store.CutOff path ∧
                store.isFile path = .ok false ∧ store.isDirectory path = .ok false)) ∧
          (store.present path = false →
            Fails (store.isFile path) ∧
              Fails (store.isDirectory path) ∧
                Fails (store.list path) ∧
                  Fails (store.canonicalPath path) ∧
                    Fails (store.openRead path) ∧ Fails (store.removeFile path)) := by
  refine ⟨fun directory => ?_, fun file => ?_, fun there => ?_, fun absent => ?_⟩
  · have leads := Scan.isDirectory_eq_ok_true_iff.mp directory
    refine ⟨⟨_, Scan.list_eq_ok_iff.mpr ⟨leads, rfl⟩⟩, fails_of_read_eq_none, fun below => ?_⟩
    rw [lookup_of_resolve_ne_nil below] at leads
    refine ⟨read_eq_none_of_find? leads, ?_, fails_makeDirectory leads⟩
    rw [fails_iff_forall_ne_ok]
    rintro ⟨writer, after⟩ opened
    exact (openWrite_eq_ok_iff.mp opened).1 leads
  · obtain ⟨content, leads⟩ := Scan.isFile_eq_ok_true_iff.mp file
    have held := read_of_lookup leads
    refine ⟨⟨content, _, held, openRead_of_read held,
      removeFile_eq_ok_iff.mpr ⟨content, held, rfl⟩⟩, ?_,
      fails_makeDirectory (read_eq_some_iff.mp held)⟩
    rw [fails_iff_forall_ne_ok]
    intro names listed
    rw [(Scan.list_eq_ok_iff.mp listed).1] at leads
    cases leads
  · obtain ⟨entry, leads⟩ := Option.isSome_iff_exists.mp there
    have found : store.lookupOrFail path = .ok entry := by
      rw [lookupOrFail, leads]
    rw [isFile, isDirectory, found]
    cases entry with
    | file content => exact .inl ⟨rfl, rfl⟩
    | directory => exact .inr (.inl ⟨rfl, rfl⟩)
    | link target => exact .inr (.inr ⟨cutOff_of_lookup leads, rfl, rfl⟩)
  · obtain ⟨below, missing⟩ := present_eq_false_iff.mp absent
    have nowhere : store.lookup path = none := (lookup_of_resolve_ne_nil below).trans missing
    have unread : store.read path = none := by
      rw [read, missing]
    obtain ⟨noFile, noDirectory, unlisted, unnamed⟩ := fails_of_lookup_eq_none nowhere
    obtain ⟨unopened, unremoved⟩ := fails_of_read_eq_none unread
    exact ⟨noFile, noDirectory, unlisted, unnamed, unopened, unremoved⟩

/-- A store with a link to itself. -/
def selfLink : Store :=
  empty.withLink "a" "a"

/-- The link is there and neither a file nor a directory; and the root passes for a directory,
although a directory can be made there and a file opened for writing. -/
theorem selfLink_and_root_disagree :
    Reachable selfLink [] ∧
      (selfLink.present "a" = true ∧
        selfLink.isFile "a" = .ok false ∧ selfLink.isDirectory "a" = .ok false) ∧
      (selfLink.isDirectory "" = .ok true ∧
        (∃ after, selfLink.makeDirectory "" = .ok after) ∧
          ∃ opened, selfLink.openWrite "" = .ok opened) :=
  ⟨.withLink _ _ (.empty _), ⟨by decide +kernel, by decide +kernel, by decide +kernel⟩,
    by decide +kernel,
    ⟨_, makeDirectory_eq_ok_iff.mpr ⟨by decide +kernel, by decide +kernel, rfl⟩⟩,
    ⟨_, openWrite_eq_ok_iff.mpr ⟨by decide +kernel, by decide +kernel, rfl, rfl⟩⟩⟩

end Store
end Baseline
