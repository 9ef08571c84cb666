import Baseline.FileError
import Baseline.Location
import Baseline.Text.Bytes
import Baseline.Text.Pieces

/-!
# Disks

A disk is a tree of directories, files and symbolic links below one root.  Paths
are walked part by part from the root or from the working directory: links are
followed wherever they stand, two dots lead to the enclosing directory, and
every part but the last must be a directory.  A slash at the end of a path asks
for a directory too.

Directories know files by number, so a file that is open can still be read and
written after its name is gone.
-/

namespace Baseline

/-- What a name on a disk stands for. -/
inductive DiskEntry
  /-- A file, by its number. -/
  | file (number : Nat)
  /-- A directory. -/
  | directory
  /-- A symbolic link, by the path it leads to. -/
  | link (target : String)
  deriving DecidableEq, Repr

/-- A tree of files. -/
structure Disk where
  /-- What the locations stand for, oldest first. -/
  entries : List (Location × DiskEntry)
  /-- The bytes of the files, by number. -/
  contents : List (List UInt8)
  /-- The directory that relative paths start from. -/
  workingDirectory : Location
  deriving DecidableEq, Repr

/-- A path taken apart. -/
structure Route where
  /-- The path starts at the root. -/
  absolute : Bool
  /-- The parts of the path that are not empty. -/
  parts : List String
  /-- The path ends in a slash. -/
  slashed : Bool
  deriving DecidableEq, Repr

namespace Route

/-- The route that a path describes. -/
def ofPath (path : String) : Route where
  absolute := path.toList.head? = some '/'
  parts := ((Text.pieces '/' path.toList).filter fun part => !part.isEmpty).map String.ofList
  slashed := path.toList.getLast? = some '/'

/-- The parts to walk; a slash at the end counts as a last dot. -/
def steps (route : Route) : List String :=
  if route.slashed then route.parts ++ ["."] else route.parts

/-- The last part, if it is a name. -/
def name? (route : Route) : Option String :=
  match route.parts.getLast? with
  | some "." | some ".." => none
  | last? => last?

end Route

namespace Disk

/-- The disk with nothing on it but a working directory below the root. -/
def empty (workingDirectory : Location) : Disk where
  entries :=
    (List.range workingDirectory.length).map fun index =>
      (workingDirectory.take (index + 1), .directory)
  contents := []
  workingDirectory := workingDirectory

/-- What a location stands for; the root is always a directory. -/
def find? (disk : Disk) (location : Location) : Option DiskEntry :=
  if location = [] then some .directory else disk.entries.lookup location

/-- The bytes of the file with a number. -/
def content (disk : Disk) (number : Nat) : List UInt8 :=
  disk.contents[number]?.getD []

/-- The disk with a free location taken. -/
def add (disk : Disk) (location : Location) (entry : DiskEntry) : Disk :=
  { disk with entries := disk.entries ++ [(location, entry)] }

/-- The disk with a location freed. -/
def erase (disk : Disk) (location : Location) : Disk :=
  { disk with entries := disk.entries.filter fun entry => entry.1 != location }

/-- The disk with other bytes in the file with a number. -/
def setContent (disk : Disk) (number : Nat) (bytes : List UInt8) : Disk :=
  { disk with contents := disk.contents.set number bytes }

/-- The disk with an empty file at a free location; the file gets the next
number. -/
def addFile (disk : Disk) (location : Location) : Disk :=
  { disk.add location (.file disk.contents.length) with contents := disk.contents ++ [[]] }

/-- The greatest number of links that one walk follows. -/
def linkLimit : Nat := 40

/-- The greatest number of bytes of a name. -/
def nameLimit : Nat := 255

/-- Paths are shorter than this many bytes. -/
def pathLimit : Nat := 4096

/-- The location where a route starts, seen from a directory. -/
def start (directory : Location) (route : Route) : Location :=
  if route.absolute then [] else directory

/-- The location that parts lead to from a directory, at most `links` links being
followed.  Nothing need be at that location, but it lies in a directory. -/
def walk (disk : Disk) (links : Nat) (here : Location) (parts : List String) :
    Except SystemFault Location :=
  match parts with
  | [] => .ok here
  | part :: rest =>
      if disk.find? here ≠ some .directory then .error .notADirectory
      else if part = "." then walk disk links here rest
      else if part = ".." then walk disk links here.parent rest
      else if nameLimit < part.utf8ByteSize then .error .nameTooLong
      else
        match disk.find? (here ++ [part]) with
        | none => if rest.isEmpty then .ok (here ++ [part]) else .error .notFound
        | some (.link target) =>
            match links with
            | 0 => .error .linkLoop
            | links + 1 =>
                let route := Route.ofPath target
                walk disk links (start here route) (route.steps ++ rest)
        | some _ => walk disk links (here ++ [part]) rest
  termination_by (links, parts.length)

/-- Walk some parts from where a route starts. -/
def walkFrom (disk : Disk) (route : Route) (parts : List String) : Except FileError Location :=
  (disk.walk linkLimit (start disk.workingDirectory route) parts).mapError .system

/-- The route that a path describes, if it is one that a system takes. -/
def route (path : String) : Except FileError Route :=
  if path.toList.contains '\x00' then .error .badPath
  else if path.isEmpty then .error (.system .notFound)
  else if pathLimit ≤ path.utf8ByteSize then .error (.system .nameTooLong)
  else .ok (Route.ofPath path)

/-- The location that a path leads to, and what is there. -/
def lookup (disk : Disk) (path : String) : Except FileError (Location × DiskEntry) := do
  let route ← route path
  let location ← disk.walkFrom route route.steps
  match disk.find? location with
  | some entry => return (location, entry)
  | none => throw (.system .notFound)

/-- The location that the last part of a path names in the directory around it; a
link there is not followed.  There is none if the last part is no name. -/
def place? (disk : Disk) (path : String) : Except FileError (Option Location) := do
  let route ← route path
  let directory ← disk.walkFrom route (route.parts.dropLast ++ ["."])
  match route.name? with
  | none => return none
  | some name =>
      if nameLimit < name.utf8ByteSize then throw (.system .nameTooLong)
      return some (directory ++ [name])

/-- A location as a path from the root. -/
def absolutePath (location : Location) : String :=
  "/" ++ location.toPath

end Disk
end Baseline
