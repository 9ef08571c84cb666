import Baseline.FileError
import Baseline.Surface

/-!
# Access to files

What a run needs of a file system, whatever its state looks like.  Questions
about paths leave the state alone; writing and removing files change it, also
when they fail halfway.  Readers and writers are values: using one gives its
successor.
-/

namespace Baseline

/-- A change of the state that may fail; the state is kept in either case. -/
abbrev FileAction (σ : Type) := ExceptT FileError (StateM σ)

/-- The action that an operation makes; a refused operation changes nothing. -/
def FileAction.attempt
    {σ α : Type}
    (operation : σ → Except FileError (α × σ)) :
    FileAction σ α :=
  fun state =>
    match operation state with
    | .ok (result, next) => (.ok result, next)
    | .error error => (.error error, state)

/-- The operations of a file system with states `σ`. -/
class FileAccess (σ : Type) where
  /-- A file opened for reading. -/
  Reader : Type
  /-- A file opened for writing. -/
  Writer : Type
  /-- The capabilities the file system shows. -/
  surface : σ → Surface
  /-- The text between a directory and an entry. -/
  separator : σ → String
  /-- Something is at the path. -/
  present : σ → String → Bool
  /-- A file is at the path; fails when the path cannot be looked at. -/
  isFile : σ → String → Except FileError Bool
  /-- A directory is at the path; fails when the path cannot be looked at. -/
  isDirectory : σ → String → Except FileError Bool
  /-- The names in a directory, in the order of the host. -/
  list : σ → String → Except FileError (List String)
  /-- A form of the path that tells whether two paths lead to one directory. -/
  canonicalPath : σ → String → Except FileError String
  /-- The directory that relative paths start from. -/
  workingDirectory : σ → String
  /-- Make a directory inside an existing one. -/
  makeDirectory : String → FileAction σ Unit
  /-- Remove a file. -/
  removeFile : String → FileAction σ Unit
  /-- Open a file for reading. -/
  openRead : σ → String → Except FileError Reader
  /-- The next line without its break, empty at the end of the file; and the
  reader after it, also when reading fails. -/
  readLine : σ → Reader → Except FileError String × Reader
  /-- All that is left, line breaks included; and the reader after it, also when
  reading fails. -/
  readRest : σ → Reader → Except FileError String × Reader
  /-- A number that the lines left do not exceed, empty ones apart. -/
  remaining : σ → Reader → Nat
  /-- Release a file opened for reading. -/
  closeReader : σ → Reader → Except FileError Unit
  /-- Open a file for writing; it is created or emptied. -/
  openWrite : String → FileAction σ Writer
  /-- Write more text. -/
  write : Writer → String → FileAction σ Writer
  /-- Release a file opened for writing and report what goes wrong. -/
  closeWriter : Writer → FileAction σ Unit
  /-- Release a file opened for writing silently. -/
  discardWriter : Writer → StateM σ Unit

end Baseline
