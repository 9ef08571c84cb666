import Baseline.Surface

/-!
# Recorded consoles

A console that keeps what is printed and what is executed instead of passing it
on.  A print call joins its values with single spaces into one line.
-/

namespace Baseline

/-- What was printed and executed. -/
structure Console where
  /-- The lines printed, oldest first. -/
  lines : List String := []
  /-- The commands executed, oldest first. -/
  commands : List String := []
  deriving DecidableEq, Repr

namespace Console

/-- Print values as one line. -/
def print (console : Console) (values : List String) : Console :=
  { console with lines := console.lines ++ [" ".intercalate values] }

/-- Print several lines. -/
def printLines (console : Console) (lines : List String) : Console :=
  { console with lines := console.lines ++ lines }

/-- Note a command; it always succeeds. -/
def execute (console : Console) (command : String) : Console × Int :=
  ({ console with commands := console.commands ++ [command] }, 0)

/-- The lines printed, with line feeds between them. -/
def output (console : Console) : String :=
  "\n".intercalate console.lines

end Console
end Baseline
