import Baseline.Unicode.CodeRanges

/-!
# White space

A character is blank when it has the Unicode property White_Space.
-/

namespace Baseline
namespace Unicode

set_option maxRecDepth 8000

/-- Code points with the property White_Space. -/
def blankRanges : CodeRanges :=
  [(0x9, 0xD), (0x20, 0x20), (0x85, 0x85), (0xA0, 0xA0), (0x1680, 0x1680), (0x2000, 0x200A),
   (0x2028, 0x2029), (0x202F, 0x202F), (0x205F, 0x205F), (0x3000, 0x3000)]

/-- The character is white space in the sense of Unicode. -/
def isBlank (char : Char) : Bool :=
  blankRanges.contains char

end Unicode
end Baseline
