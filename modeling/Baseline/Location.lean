import Baseline.Text.Pieces

/-!
# Locations

A location is the list of names that leads from the root to an entry.  When a
path is read as a location, empty parts and single dots do not count, and two
dots are a name like any other.
-/

namespace Baseline

/-- The names that lead from the root to an entry. -/
abbrev Location := List String

namespace Location

/-- The part of a path counts as a name. -/
def isName (part : List Char) : Bool :=
  !part.isEmpty && part != ['.']

/-- The location that a path names. -/
def ofPath (path : String) : Location :=
  ((Text.pieces '/' path.toList).filter isName).map String.ofList

/-- The location as a path. -/
def toPath (location : Location) : String :=
  "/".intercalate location

/-- The location of the enclosing directory; the root encloses itself. -/
def parent (location : Location) : Location :=
  location.dropLast

end Location
end Baseline
