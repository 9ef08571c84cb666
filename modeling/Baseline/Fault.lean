import Baseline.FileAccess

/-!
# Injected faults

A file system that fails on purpose: each fault names an operation and a path,
and the operation fails whenever it is asked for exactly that path.  Everything
else is left to the file system inside.  A writer whose release fails still
releases the one inside, silently.
-/

namespace Baseline

/-- The operations that can be made to fail. -/
inductive FaultyOperation
  /-- Asking whether something is there; it then seems that nothing is. -/
  | present
  /-- Asking for a file. -/
  | isFile
  /-- Asking for a directory. -/
  | isDirectory
  /-- Listing a directory. -/
  | list
  /-- Resolving a path. -/
  | canonicalPath
  /-- Removing a file. -/
  | removeFile
  /-- Opening for reading. -/
  | openRead
  /-- Opening for writing. -/
  | openWrite
  /-- Reading from an open file. -/
  | read
  /-- Writing to an open file. -/
  | write
  /-- Releasing an open file. -/
  | close
  deriving DecidableEq, Repr

/-- A failure on purpose. -/
structure Fault where
  /-- The operation that fails. -/
  operation : FaultyOperation
  /-- The path it fails at. -/
  path : String
  /-- What the failure says. -/
  reason : String
  deriving DecidableEq, Repr

/-- A file system with injected faults. -/
structure Faulty (σ : Type) where
  /-- The file system inside. -/
  inner : σ
  /-- The faults, of which the first that applies is taken. -/
  faults : List Fault

/-- A handle and the path it was opened with. -/
structure Opened (handle : Type) where
  /-- The path the handle was opened with. -/
  path : String
  /-- The handle of the file system inside. -/
  inner : handle

namespace Faulty

variable {σ : Type}

/-- The fault that applies to an operation at a path. -/
def fault? (system : Faulty σ) (operation : FaultyOperation) (path : String) :
    Option FileError :=
  (system.faults.find? fun fault => fault.operation = operation ∧ fault.path = path).map
    fun fault => .refused fault.reason

/-- An answer of the file system inside, unless a fault applies. -/
def guarded
    {α : Type}
    (system : Faulty σ)
    (operation : FaultyOperation)
    (path : String)
    (answer : Except FileError α) :
    Except FileError α :=
  match system.fault? operation path with
  | some error => .error error
  | none => answer

/-- An action on the file system inside. -/
def within {α : Type} (action : StateM σ α) : StateM (Faulty σ) α :=
  fun system =>
    let (result, inner) := action system.inner
    (result, { system with inner })

/-- An action on the file system inside, unless a fault applies. -/
def guardedAction
    {α : Type}
    (operation : FaultyOperation)
    (path : String)
    (action : FileAction σ α) :
    FileAction (Faulty σ) α :=
  fun system =>
    match system.fault? operation path with
    | some error => (.error error, system)
    | none => within action system

/-- What reading from the handle inside gives, unless a fault applies. -/
def guardedRead
    {handle : Type}
    (system : Faulty σ)
    (reader : Opened handle)
    (result : Except FileError String × handle) :
    Except FileError String × Opened handle :=
  match system.fault? .read reader.path with
  | some error => (.error error, reader)
  | none => (result.1, { reader with inner := result.2 })

variable [FileAccess σ]

instance : FileAccess (Faulty σ) where
  Reader := Opened (FileAccess.Reader σ)
  Writer := Opened (FileAccess.Writer σ)
  surface system := FileAccess.surface system.inner
  separator system := FileAccess.separator system.inner
  present system path :=
    (system.fault? .present path).isNone && FileAccess.present system.inner path
  isFile system path := system.guarded .isFile path (FileAccess.isFile system.inner path)
  isDirectory system path :=
    system.guarded .isDirectory path (FileAccess.isDirectory system.inner path)
  list system path := system.guarded .list path (FileAccess.list system.inner path)
  canonicalPath system path :=
    system.guarded .canonicalPath path (FileAccess.canonicalPath system.inner path)
  workingDirectory system := FileAccess.workingDirectory system.inner
  makeDirectory path := fun system => within (FileAccess.makeDirectory path) system
  removeFile path := guardedAction .removeFile path (FileAccess.removeFile path)
  openRead system path :=
    system.guarded .openRead path <|
      (FileAccess.openRead system.inner path).map fun inner => ⟨path, inner⟩
  readLine system reader :=
    system.guardedRead reader (FileAccess.readLine system.inner reader.inner)
  readRest system reader :=
    system.guardedRead reader (FileAccess.readRest system.inner reader.inner)
  remaining system reader := FileAccess.remaining system.inner reader.inner
  closeReader system reader :=
    system.guarded .close reader.path (FileAccess.closeReader system.inner reader.inner)
  openWrite path :=
    guardedAction .openWrite path <| do
      return ⟨path, ← FileAccess.openWrite (σ := σ) path⟩
  write writer text :=
    guardedAction .write writer.path <| do
      return { writer with inner := ← FileAccess.write writer.inner text }
  closeWriter writer := fun system =>
    match system.fault? .close writer.path with
    | some error =>
        let ((), next) := within (FileAccess.discardWriter writer.inner) system
        (.error error, next)
    | none => within (FileAccess.closeWriter writer.inner) system
  discardWriter writer := within (FileAccess.discardWriter writer.inner)

end Faulty

end Baseline
