import Baseline.Text.Pieces

/-!
# Line breaks

Texts are compared without their line breaks, so that neither the style nor the
place of a line break matters.  `lines` cuts a text at its line feeds for
printing.
-/

namespace Baseline
namespace Text

/-- Carriage return and line feed break lines. -/
def isLineBreak (char : Char) : Bool :=
  char == '\r' || char == '\n'

/-- The text without its carriage returns and line feeds. -/
def stripLineBreaks (text : String) : String :=
  String.ofList (text.toList.filter fun char => !isLineBreak char)

@[simp] theorem toList_stripLineBreaks (text : String) :
    (stripLineBreaks text).toList = text.toList.filter fun char => !isLineBreak char := by
  simp [stripLineBreaks]

/-- The line without one carriage return at its end. -/
def dropReturn (line : List Char) : List Char :=
  if line.getLast? = some '\r' then line.dropLast else line

/-- The line without the line feed at its end and one carriage return before the
line feed; a line that is not ended stays as it is. -/
def dropBreak (line : List Char) : List Char :=
  if line.getLast? = some '\n' then dropReturn line.dropLast else line

/-- Ended lines lose a carriage return at their end; what follows the last line
feed is a line only if it is not empty. -/
def closeLines : List (List Char) → List (List Char)
  | [] => []
  | [last] => if last.isEmpty then [] else [last]
  | line :: later => dropReturn line :: closeLines later

/-- The lines of a text as they are printed, without their breaks. -/
def lines (text : String) : List String :=
  (closeLines (pieces '\n' text.toList)).map String.ofList

end Text
end Baseline
