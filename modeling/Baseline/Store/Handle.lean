import Baseline.Store.Basic
import Baseline.Text.LineBreaks

/-!
# Operations and handles of a store

The operations that can fail, and the handles for reading and writing.  A reader
holds the text that was in the file when it was opened.  A writer collects text;
closing it, or dropping it, puts the text into the file.
-/

namespace Baseline
namespace Store

/-- What a path leads to, or the error that nothing is there. -/
def lookupOrFail (store : Store) (path : String) : Except FileError Entry :=
  match store.lookup path with
  | some entry => .ok entry
  | none => .error (.noEntry path)

/-- Something is at the path. -/
def present (store : Store) (path : String) : Bool :=
  (store.lookup path).isSome

/-- A directory is at the path. -/
def isDirectory (store : Store) (path : String) : Except FileError Bool := do
  match ← store.lookupOrFail path with
  | .directory => return true
  | _ => return false

/-- A file is at the path. -/
def isFile (store : Store) (path : String) : Except FileError Bool := do
  match ← store.lookupOrFail path with
  | .file _ => return true
  | _ => return false

/-- The location of the entry at the path. -/
def canonicalPath (store : Store) (path : String) : Except FileError String := do
  discard (store.lookupOrFail path)
  return (store.resolve path).toPath

/-- The names of the entries whose enclosing directory is the location. -/
def namesIn (store : Store) (directory : Location) : List String :=
  store.entries.filterMap fun (location, _) =>
    if location.parent = directory then location.getLast? else none

/-- The names in a directory, oldest entry first. -/
def list (store : Store) (path : String) : Except FileError (List String) := do
  if ← store.isDirectory path then
    return store.namesIn (store.resolve path)
  else
    throw (.notADirectory path)

/-- Add a directory inside an existing one. -/
def makeDirectory (store : Store) (path : String) : Except FileError Store :=
  let location := store.resolve path
  if (store.find? location).isSome then .error (.entryExists location.toPath)
  else if (store.lookupLocation location.parent).isNone then
    .error (.noEntry location.parent.toPath)
  else .ok (store.put location .directory)

/-- Remove the file at the path. -/
def removeFile (store : Store) (path : String) : Except FileError Store :=
  let location := store.resolve path
  match store.find? location with
  | some (.file _) => .ok (store.erase location)
  | some _ => .error (.notAFile path)
  | none => .error (.noEntry path)

/-- A file open for reading: the text not read yet. -/
structure Reader where
  /-- The text not read yet. -/
  rest : List Char
  deriving DecidableEq, Repr

namespace Reader

/-- The text up to the next line feed, without the line feed and one carriage
return before it. -/
def readLine (reader : Reader) : String × Reader :=
  let line := reader.rest.takeWhile (· != '\n')
  let after := (reader.rest.dropWhile (· != '\n')).drop 1
  (String.ofList (Text.dropReturn line), ⟨after⟩)

/-- All text not read yet. -/
def readRest (reader : Reader) : String × Reader :=
  (String.ofList reader.rest, ⟨[]⟩)

end Reader

/-- A file open for writing: where the text goes, and the text so far. -/
structure Writer where
  /-- The location of the file. -/
  location : Location
  /-- The text written so far. -/
  buffer : String
  deriving DecidableEq, Repr

namespace Writer

/-- Add text at the end. -/
def write (writer : Writer) (text : String) : Writer :=
  { writer with buffer := writer.buffer ++ text }

/-- Put the text into the file. -/
def commit (writer : Writer) (store : Store) : Store :=
  store.put writer.location (.file writer.buffer)

end Writer

/-- Open the file at the path for reading. -/
def openRead (store : Store) (path : String) : Except FileError Reader :=
  match store.find? (store.resolve path) with
  | some (.file content) => .ok ⟨content.toList⟩
  | some _ => .error (.notAFile path)
  | none => .error (.noEntry path)

/-- Open the file at the path for writing, creating or emptying it. -/
def openWrite (store : Store) (path : String) : Except FileError (Writer × Store) :=
  let location := store.resolve path
  if store.find? location = some .directory then .error (.isADirectory path)
  else if (store.lookupLocation location.parent).isNone then
    .error (.noEntry location.parent.toPath)
  else .ok (⟨location, ""⟩, store.put location (.file ""))

end Store
end Baseline
