import Baseline.Disk.Basic

/-!
# Operations on a disk

Questions about paths, and the changes of a disk that concern names.  Making and
removing entries looks at the last part of a path itself: a link there is not
followed.
-/

namespace Baseline
namespace Disk

/-- Something is at the path. -/
def present (disk : Disk) (path : String) : Bool :=
  (disk.lookup path).toOption.isSome

/-- A file is at the path. -/
def isFile (disk : Disk) (path : String) : Except FileError Bool := do
  match (← disk.lookup path).2 with
  | .file _ => return true
  | _ => return false

/-- A directory is at the path. -/
def isDirectory (disk : Disk) (path : String) : Except FileError Bool := do
  return (← disk.lookup path).2 = .directory

/-- The path from the root, without links, dots and needless slashes. -/
def canonicalPath (disk : Disk) (path : String) : Except FileError String := do
  return absolutePath (← disk.lookup path).1

/-- The names in the directory at a location. -/
def namesIn (disk : Disk) (directory : Location) : List String :=
  disk.entries.filterMap fun (location, _) =>
    if location.parent = directory then location.getLast? else none

/-- The names in the directory at the path. -/
def list (disk : Disk) (path : String) : Except FileError (List String) := do
  match ← disk.lookup path with
  | (location, .directory) => return disk.namesIn location
  | _ => throw (.system .notADirectory)

/-- The disk with a new entry at the path, where nothing may be. -/
def addEntry (disk : Disk) (path : String) (entry : DiskEntry) : Except FileError Disk := do
  match ← disk.place? path with
  | none => throw (.system .alreadyExists)
  | some location =>
      if (disk.find? location).isSome then throw (.system .alreadyExists)
      return disk.add location entry

/-- Make a directory inside an existing one. -/
def makeDirectory (disk : Disk) (path : String) : Except FileError Disk :=
  disk.addEntry path .directory

/-- Remove the file or the link at the path. -/
def removeFile (disk : Disk) (path : String) : Except FileError Disk := do
  match ← disk.place? path with
  | none => throw (.system .isADirectory)
  | some location =>
      match disk.find? location with
      | none => throw (.system .notFound)
      | some .directory => throw (.system .isADirectory)
      | some _ =>
          if (Route.ofPath path).slashed then throw (.system .notADirectory)
          return disk.erase location

/-- Create or empty the file at the path, and give its number. -/
def createFile (disk : Disk) (path : String) : Except FileError (Nat × Disk) := do
  let route ← route path
  if route.slashed ∨ (← disk.place? path) = none then throw (.system .isADirectory)
  let location ← disk.walkFrom route route.steps
  match disk.find? location with
  | none => return (disk.contents.length, disk.addFile location)
  | some (.file number) => return (number, disk.setContent number [])
  | some _ => throw (.system .isADirectory)

end Disk
end Baseline
