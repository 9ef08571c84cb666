import Baseline.Text.Position

/-!
# Parse failures

A parser that refuses a text says why and, if it can, where.
-/

namespace Baseline

/-- The refusal of a text by a parser. -/
structure ParseFailure where
  /-- Why the text is refused. -/
  reason : String
  /-- Where the reason lies, if the parser knows. -/
  position : Option Position
  deriving DecidableEq, Repr

namespace ParseFailure

/-- The place as it is told after the reason. -/
def placeText : Option Position → String
  | none => ""
  | some position => s!" at line {position.line}, column {position.column}"

/-- The failure in one line. -/
def message (failure : ParseFailure) : String :=
  failure.reason ++ placeText failure.position

end ParseFailure
end Baseline
