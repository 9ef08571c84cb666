/-!
# Expected mismatches

A list of sources that are known to mismatch.  An entry names a source as it was
scanned, or relative to the scanned root.  A mismatch that no entry names is a
regression.
-/

namespace Baseline

/-- A source that is expected to mismatch. -/
structure MismatchEntry where
  /-- The source, as scanned or relative to the root. -/
  source : String
  /-- Why it mismatches. -/
  reason : Option String := none
  /-- When the entry was added. -/
  added : Option String := none
  /-- Where the mismatch is tracked. -/
  issue : Option String := none
  deriving DecidableEq, Repr

/-- How a mismatch counts. -/
inductive MismatchState
  /-- A known limitation. -/
  | known
  /-- A fix is awaited. -/
  | pending
  /-- Nobody expected it. -/
  | regression
  deriving DecidableEq, Repr

/-- The sources that are expected to mismatch. -/
structure Expected where
  /-- Known limitations. -/
  known : List MismatchEntry := []
  /-- Sources that await a fix. -/
  pending : List MismatchEntry := []
  /-- The scanned root that entries may be relative to. -/
  root : Option String := none
  deriving DecidableEq, Repr

namespace Expected

/-- A path with slashes for backslashes and without one leading dot and
slash. -/
def normalize (path : String) : List Char :=
  match path.toList.map fun char => if char = '\\' then '/' else char with
  | '.' :: '/' :: rest => rest
  | other => other

/-- A path without the slashes at its end. -/
def trimSlashes (path : List Char) : List Char :=
  (path.reverse.dropWhile (· == '/')).reverse

/-- The path relative to a root, both normalized, if it lies below the root. -/
def relativeTo? (root path : List Char) : Option (List Char) :=
  let root := trimSlashes root
  if root = [] ∨ root = ['.'] then some path
  else if (root ++ ['/']).isPrefixOf path then some (path.drop (root.length + 1))
  else none

/-- The entry names the source at a path. -/
def names (root : Option String) (path : String) (entry : MismatchEntry) : Bool :=
  let source := normalize entry.source
  normalize path = source ||
    match root with
    | some root => relativeTo? (normalize root) (normalize path) = some source
    | none => false

/-- How a mismatch of the source at a path counts. -/
def classify (expected : Expected) (path : String) : MismatchState :=
  if expected.known.any (names expected.root path) then .known
  else if expected.pending.any (names expected.root path) then .pending
  else .regression

/-- The number of entries. -/
def count (expected : Expected) : Nat :=
  expected.known.length + expected.pending.length

/-- The first entry that names the source at a path. -/
def entry? (expected : Expected) (path : String) : Option MismatchEntry :=
  (expected.known ++ expected.pending).find? (names expected.root path)

/-- The entries, relative to a root if they have none of their own. -/
def withDefaultRoot (expected : Expected) (root : String) : Expected :=
  { expected with root := some (expected.root.getD root) }

end Expected
end Baseline
