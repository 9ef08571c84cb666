import Baseline.FileError
import Baseline.Location
import Baseline.Surface

/-!
# In-memory file stores

A store is a table of entries in the order they were added.  An entry is a file,
a directory, or a link to another location.  Links are followed part by part
when a path is resolved, so a path through links names the entry it leads to.
-/

namespace Baseline

/-- What a store holds at a location. -/
inductive Entry
  /-- A file and its content. -/
  | file (content : String)
  /-- A directory. -/
  | directory
  /-- An alias of another location. -/
  | link (target : Location)
  deriving DecidableEq, Repr

/-- An in-memory file system. -/
structure Store where
  /-- The capabilities it shows. -/
  surface : Surface := Surface.fileSystem
  /-- The entries, oldest first. -/
  entries : List (Location × Entry) := []
  deriving Repr, Inhabited

namespace Store

/-- The store with no entries. -/
def empty : Store := {}

/-- The entry at a location, links not followed. -/
def find? (store : Store) (location : Location) : Option Entry :=
  store.entries.lookup location

/-- Entries with the one at a location replaced, or a new one at the end. -/
def putEntry (location : Location) (entry : Entry) :
    List (Location × Entry) → List (Location × Entry)
  | [] => [(location, entry)]
  | (other, kept) :: rest =>
      if other = location then (location, entry) :: rest
      else (other, kept) :: putEntry location entry rest

/-- The store with the entry at a location replaced or added. -/
def put (store : Store) (location : Location) (entry : Entry) : Store :=
  { store with entries := putEntry location entry store.entries }

/-- The store without the entry at a location. -/
def erase (store : Store) (location : Location) : Store :=
  { store with entries := store.entries.eraseP fun entry => entry.1 == location }

/-- The greatest number of links followed for one part of a path. -/
def linkLimit : Nat := 33

/-- Follow links from a location, at most the given number of times. -/
def follow (store : Store) : Nat → Location → Location
  | 0, location => location
  | hops + 1, location =>
      match store.find? location with
      | some (.link target) => store.follow hops target
      | _ => location

/-- The location that the name leads to from a resolved directory. -/
def step (store : Store) (directory : Location) (name : String) : Location :=
  store.follow linkLimit (directory ++ [name])

/-- The location that names lead to from the root, links followed after each. -/
def resolveLocation (store : Store) (location : Location) : Location :=
  location.foldl store.step []

/-- The location that a path leads to. -/
def resolve (store : Store) (path : String) : Location :=
  store.resolveLocation (.ofPath path)

/-- What a location leads to; the root is always a directory. -/
def lookupLocation (store : Store) (location : Location) : Option Entry :=
  match store.resolveLocation location with
  | [] => some .directory
  | resolved => store.find? resolved

/-- What a path leads to. -/
def lookup (store : Store) (path : String) : Option Entry :=
  store.lookupLocation (.ofPath path)

/-- The content of the file that a path leads to. -/
def read (store : Store) (path : String) : Option String :=
  match store.find? (store.resolve path) with
  | some (.file content) => some content
  | _ => none

/-- Add a directory and the missing ones around it. -/
def insertDirectory (store : Store) (location : Location) : Store :=
  if location = [] ∨ (store.find? location).isSome then store
  else (store.insertDirectory location.parent).put location .directory
  termination_by location.length
  decreasing_by
    rename_i condition
    have : location ≠ [] := fun isRoot => condition (.inl isRoot)
    have := List.length_pos_iff.mpr this
    simp only [Location.parent, List.length_dropLast]
    omega

/-- The store with a directory added at a path. -/
def withDirectory (store : Store) (path : String) : Store :=
  store.insertDirectory (.ofPath path)

/-- The store with an entry added at a path, and the missing directories around
it. -/
def withEntry (store : Store) (path : String) (entry : Entry) : Store :=
  let location := Location.ofPath path
  (store.insertDirectory location.parent).put location entry

/-- The store with a file added at a path. -/
def withFile (store : Store) (path content : String) : Store :=
  store.withEntry path (.file content)

/-- The store with a path made an alias of another. -/
def withLink (store : Store) (path target : String) : Store :=
  store.withEntry path (.link (.ofPath target))

@[simp] theorem find?_empty (location : Location) : empty.find? location = none := rfl

end Store
end Baseline
