import Baseline.FileAccess

/-!
# Sessions

A file system together with handles that are open at the same time, each under a
name.  Opening a handle under a name that is taken discards the older one after
the new one is open.
-/

namespace Baseline

/-- How a file is opened. -/
inductive OpenMode
  /-- For reading. -/
  | read
  /-- For writing; the file is created or emptied. -/
  | write
  deriving DecidableEq, Repr

/-- A file open for reading or for writing. -/
inductive Handle (σ : Type) [FileAccess σ]
  /-- Open for reading. -/
  | reader (reader : FileAccess.Reader σ)
  /-- Open for writing. -/
  | writer (writer : FileAccess.Writer σ)

/-- A file system and the handles open on it. -/
structure Session (σ : Type) [FileAccess σ] where
  /-- The file system. -/
  system : σ
  /-- The open handles under their names. -/
  handles : List (String × Handle σ) := []

/-- Why a step with a handle fails. -/
inductive HandleError
  /-- No handle has the name. -/
  | noHandle
  /-- The operation fails. -/
  | file (error : FileError)
  deriving DecidableEq, Repr

namespace Session

variable {σ : Type} [FileAccess σ]

/-- The session after an action on the file system. -/
def act {α : Type} (session : Session σ) (action : FileAction σ α) :
    Except FileError α × Session σ :=
  let (result, system) := action.run session.system
  (result, { session with system })

/-- The session without the handle of a name. -/
def remove (session : Session σ) (name : String) : Session σ :=
  { session with handles := session.handles.filter fun entry => entry.1 != name }

/-- The session with a handle under a name that is free. -/
def add (session : Session σ) (name : String) (handle : Handle σ) : Session σ :=
  { session with handles := (name, handle) :: session.handles }

/-- The session without the handle of a name, which is discarded if there is
one. -/
def drop (session : Session σ) (name : String) : Session σ :=
  match session.handles.lookup name with
  | some (.writer writer) =>
      let ((), system) := (FileAccess.discardWriter writer).run session.system
      { session with system }.remove name
  | _ => session.remove name

/-- Open a file under a name. -/
def openFile (session : Session σ) (name path : String) (mode : OpenMode) :
    Except FileError Unit × Session σ :=
  match mode with
  | .read =>
      match FileAccess.openRead session.system path with
      | .ok reader => (.ok (), (session.drop name).add name (.reader reader))
      | .error error => (.error error, session)
  | .write =>
      match session.act (FileAccess.openWrite path) with
      | (.ok writer, session) => (.ok (), (session.drop name).add name (.writer writer))
      | (.error error, session) => (.error error, session)

/-- Read with an operation on readers from the handle of a name. -/
def readWith
    (session : Session σ)
    (name : String)
    (read : σ → FileAccess.Reader σ → Except FileError String × FileAccess.Reader σ) :
    Except HandleError String × Session σ :=
  match session.handles.lookup name with
  | none => (.error .noHandle, session)
  | some (.writer _) => (.error (.file .notForReading), session)
  | some (.reader reader) =>
      let (result, reader) := read session.system reader
      (result.mapError .file, (session.remove name).add name (.reader reader))

/-- Write texts one after the other to the handle of a name, until one fails. -/
def write (session : Session σ) (name : String) : List String →
    Except HandleError Unit × Session σ
  | [] => (.ok (), session)
  | text :: rest =>
      match session.handles.lookup name with
      | none => (.error .noHandle, session)
      | some (.reader _) => (.error (.file .notForWriting), session)
      | some (.writer writer) =>
          match session.act (FileAccess.write writer text) with
          | (.ok writer, session) =>
              ((session.remove name).add name (.writer writer)).write name rest
          | (.error error, session) => (.error (.file error), session)

/-- Release the handle of a name and report what goes wrong. -/
def close (session : Session σ) (name : String) : Except HandleError Unit × Session σ :=
  match session.handles.lookup name with
  | none => (.error .noHandle, session)
  | some (.reader reader) =>
      ((FileAccess.closeReader session.system reader).mapError .file, session.remove name)
  | some (.writer writer) =>
      let (result, session) := session.act (FileAccess.closeWriter writer)
      (result.mapError .file, session.remove name)

/-- Discard the handle of a name. -/
def discard (session : Session σ) (name : String) : Except HandleError Unit × Session σ :=
  if (session.handles.lookup name).isSome then (.ok (), session.drop name)
  else (.error .noHandle, session)

end Session
end Baseline
