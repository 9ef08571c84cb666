/-!
# File errors

The reasons why a file system refuses an operation.
-/

namespace Baseline

/-- The reasons an operating system gives. -/
inductive SystemFault
  /-- Nothing has that name. -/
  | notFound
  /-- The name is taken. -/
  | alreadyExists
  /-- A part of the path that should be a directory is none. -/
  | notADirectory
  /-- A directory stands where a file is needed. -/
  | isADirectory
  /-- The path leads through too many links. -/
  | linkLoop
  /-- A name is longer than the system allows. -/
  | nameTooLong
  deriving DecidableEq, Repr

namespace SystemFault

/-- The number and the wording of the reason. -/
def message : SystemFault → String
  | .notFound => "No such file or directory (os error 2)"
  | .alreadyExists => "File exists (os error 17)"
  | .notADirectory => "Not a directory (os error 20)"
  | .isADirectory => "Is a directory (os error 21)"
  | .linkLoop => "Too many levels of symbolic links (os error 40)"
  | .nameTooLong => "File name too long (os error 36)"

end SystemFault

/-- Why a file operation failed. -/
inductive FileError
  /-- Nothing is at the path. -/
  | noEntry (path : String)
  /-- Something is at the path already. -/
  | entryExists (path : String)
  /-- What is at the path cannot be listed. -/
  | notADirectory (path : String)
  /-- What is at the path cannot be read or removed as a file. -/
  | notAFile (path : String)
  /-- A directory is at the path and cannot be written to. -/
  | isADirectory (path : String)
  /-- The handle was opened for writing. -/
  | notForReading
  /-- The handle was opened for reading. -/
  | notForWriting
  /-- The bytes read are not text. -/
  | notText
  /-- The path holds a character that no name may hold. -/
  | badPath
  /-- The operating system refuses. -/
  | system (fault : SystemFault)
  /-- The host refuses for a reason of its own. -/
  | refused (reason : String)
  deriving DecidableEq, Repr

namespace FileError

/-- The error in words. -/
def message : FileError → String
  | .noEntry path => s!"no such entry: {path}"
  | .entryExists path => s!"entry exists: {path}"
  | .notADirectory path => s!"not a directory: {path}"
  | .notAFile path => s!"not a file: {path}"
  | .isADirectory path => s!"is a directory: {path}"
  | .notForReading => "handle was not opened for reading"
  | .notForWriting => "handle was not opened for writing"
  | .notText => "stream did not contain valid UTF-8"
  | .badPath => "file name contained an unexpected NUL byte"
  | .system fault => fault.message
  | .refused reason => reason

end FileError
end Baseline
