import Baseline.Disk.Handle

/-!
# What is on a disk

Filling a disk and looking at all of its files.  Missing directories are made on
the way to a new entry, and what cannot be made is left out.
-/

namespace Baseline
namespace Disk

/-- The disk after a change, or the same disk if the change is refused. -/
def tryTo (disk : Disk) (change : Disk → Except FileError Disk) : Disk :=
  (change disk).toOption.getD disk

/-- Make the directories that parts lead through from a path, outermost
first. -/
def makeDirectories (disk : Disk) (path : String) : List String → Disk
  | [] => disk
  | part :: rest =>
      let inner := path ++ part
      (disk.tryTo fun disk => disk.makeDirectory inner).makeDirectories (inner ++ "/") rest

/-- The path before the parts of a route. -/
def origin (route : Route) : String :=
  if route.absolute then "/" else ""

/-- The disk with a directory at a path. -/
def withDirectory (disk : Disk) (path : String) : Disk :=
  let route := Route.ofPath path
  disk.makeDirectories (origin route) route.parts

/-- The disk with the directories around a path. -/
def withParents (disk : Disk) (path : String) : Disk :=
  let route := Route.ofPath path
  disk.makeDirectories (origin route) route.parts.dropLast

/-- The disk with a file at a path. -/
def withFile (disk : Disk) (path : String) (bytes : List UInt8) : Disk :=
  (disk.withParents path).tryTo fun disk => do
    let (number, disk) ← disk.createFile path
    return disk.setContent number bytes

/-- The disk with a symbolic link at a path. -/
def withLink (disk : Disk) (path target : String) : Disk :=
  (disk.withParents path).tryTo fun disk => disk.addEntry path (.link target)

/-- The files below a directory: their locations from there, and their
bytes. -/
def filesBelow (disk : Disk) (directory : Location) : List (Location × List UInt8) :=
  disk.entries.filterMap fun (location, entry) =>
    match entry with
    | .file number =>
        if directory.isPrefixOf location then
          some (location.drop directory.length, disk.content number)
        else none
    | _ => none

end Disk
end Baseline
