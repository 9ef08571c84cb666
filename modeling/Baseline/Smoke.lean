import Baseline.Surface

/-!
# Smoke checks

Before anything is compared, the parts of the host are asked whether they show
the capabilities a run calls.  Checks are counted, and the first one that fails
ends the suite.
-/

namespace Baseline

/-- The check that failed. -/
structure AssertionFailure where
  /-- What was checked. -/
  label : String
  /-- The checks that passed before it, oldest first. -/
  trace : List String
  /-- The number of checks, the failed one included. -/
  total : Nat
  deriving DecidableEq, Repr

/-- The failure in one line. -/
def AssertionFailure.message (failure : AssertionFailure) : String :=
  "Test FAILS: " ++ failure.label

/-- The checks made so far. -/
structure Assertions where
  /-- The number of checks. -/
  total : Nat := 0
  /-- The checks that passed, oldest first. -/
  trail : List String := []
  deriving DecidableEq, Repr

/-- Checks that are counted and may fail. -/
abbrev Checking := ExceptT AssertionFailure (StateM Assertions)

namespace Assertions

/-- Count a check; it fails or joins the trail. -/
def check (passed : Bool) (label : String) : Checking Unit := do
  modify fun assertions => { assertions with total := assertions.total + 1 }
  let assertions ← get
  if passed then
    set { assertions with trail := assertions.trail ++ [label] }
  else
    throw ⟨label, assertions.trail, assertions.total⟩

/-- Count some checks in order. -/
def checkAll : List (Bool × String) → Checking Unit
  | [] => return ()
  | (passed, label) :: rest => do
      check passed label
      checkAll rest

end Assertions

namespace Surface

/-- The checks that a surface is exposed under a name and offers what is
required. -/
def checks (surface : Surface) (expected : String) (required : List String) :
    List (Bool × String) :=
  (decide (surface.name = expected), s!"{expected} is exposed") ::
    required.map fun capability =>
      (surface.offers capability, s!"{expected}.{capability} is exposed")

end Surface

/-- The result of a smoke suite. -/
structure SmokeOutcome where
  /-- The number of checks. -/
  total : Nat
  /-- The check that failed, if one did. -/
  failure : Option AssertionFailure
  deriving DecidableEq, Repr

namespace SmokeOutcome

/-- No check failed. -/
def passed (outcome : SmokeOutcome) : Bool :=
  outcome.failure.isNone

end SmokeOutcome

namespace Smoke

/-- The capabilities a run needs of a file system. -/
def fileSystemNeeds : List String :=
  ["exists", "isDirectory", "isFile", "makeDirectory", "list", "open", "workingDirectory"]

/-- The capabilities a run needs of a process. -/
def processNeeds : List String :=
  ["execute", "exit", "print"]

/-- The capabilities a run needs of a parser. -/
def parserNeeds : List String :=
  ["parse"]

/-- The checks of the suite: file system, process and parser, in that order. -/
def checks (fileSystem process parser : Surface) : List (Bool × String) :=
  fileSystem.checks "fs" fileSystemNeeds ++ process.checks "system" processNeeds ++
    parser.checks "Reflect" parserNeeds

/-- Run the suite. -/
def run (fileSystem process parser : Surface) : SmokeOutcome :=
  match (Assertions.checkAll (checks fileSystem process parser)).run {} with
  | (.ok (), assertions) => ⟨assertions.total, none⟩
  | (.error failure, assertions) => ⟨assertions.total, some failure⟩

end Smoke
end Baseline
