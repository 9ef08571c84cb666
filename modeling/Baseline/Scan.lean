import Baseline.FileAccess
import Baseline.Path
import Baseline.RunError

/-!
# Finding sources

A scan starts at a path.  A file with the right extension is found; a directory
is listed and its entries are scanned in turn, each with all that lies below it
before the next.  Anything else holds no sources.  Directories below a depth
limit are passed over, and so are directories entered before if cycles are to be
detected.
-/

namespace Baseline

/-- A part of a scan: it knows the directories entered so far, and ends with an
error when the file system fails. -/
abbrev ScanAction := StateT (List String) (Except RunError)

namespace Scan

variable {σ : Type} [FileAccess σ]

/-- An answer of the file system about a path, for a scan. -/
def ask {α : Type} (path : String) (answer : Except FileError α) : ScanAction α :=
  match answer with
  | .ok value => return value
  | .error error => throw (.file path error)

/-- Scan some paths one after the other. -/
def each (scan : String → ScanAction (List String)) : List String → ScanAction (List String)
  | [] => return []
  | path :: rest => do
      let found ← scan path
      let later ← each scan rest
      return found ++ later

/-- Note that a directory is entered; false if it was entered before. -/
def enter (canonical : String) : ScanAction Bool := do
  let visited ← get
  if visited.contains canonical then return false
  set (canonical :: visited)
  return true

/-- The directory at the path may be entered. -/
def mayEnter (system : σ) (options : ScanOptions) (path : String) : ScanAction Bool := do
  if options.detectCycles then
    enter (← ask path (FileAccess.canonicalPath system path))
  else
    return true

/-- The sources at or below a path, directories being entered through at most
`levels` levels. -/
def below
    (system : σ)
    (options : ScanOptions)
    (levels : Nat)
    (path : String) :
    ScanAction (List String) := do
  if !FileAccess.present system path then return []
  if ← ask path (FileAccess.isFile system path) then
    return if Path.hasExtension path options.sourceExtension then [path] else []
  if !(← ask path (FileAccess.isDirectory system path)) then return []
  match levels with
  | 0 => return []
  | levels + 1 =>
      if !(← mayEnter system options path) then return []
      let names ← ask path (FileAccess.list system path)
      each (below system options levels)
        (names.map (Path.join path (FileAccess.separator system)))

end Scan

/-- The sources at or below a path, in depth-first order of the listings. -/
def scan
    {σ : Type} [FileAccess σ]
    (system : σ)
    (options : ScanOptions)
    (path : String) :
    Except RunError (List String) :=
  (Scan.below system options (options.maxDepth + 1) path).run' []

end Baseline
