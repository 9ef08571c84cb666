/-!
# Texts as bytes

Files hold bytes, runs work on texts.  A text is stored in UTF-8, and bytes that
are not UTF-8 are no text.
-/

namespace Baseline
namespace Text

/-- The bytes of a text. -/
def encode (text : String) : List UInt8 :=
  text.toUTF8.data.toList

/-- The text of some bytes. -/
def decode? (bytes : List UInt8) : Option String :=
  String.fromUTF8? ⟨bytes.toArray⟩

/-- A text is read back from its bytes. -/
@[simp] theorem decode?_encode (text : String) : decode? (encode text) = some text := by
  simp only [decode?, encode, String.fromUTF8?, Array.toArray_toList]
  exact dif_pos text.isValidUTF8

/-- The byte of a line feed. -/
def lineFeed : UInt8 := 10

/-- The bytes up to the first line feed, the line feed included. -/
def firstLine : List UInt8 → List UInt8
  | [] => []
  | byte :: rest => if byte = lineFeed then [byte] else byte :: firstLine rest

/-- The first line is a beginning of the bytes. -/
theorem firstLine_isPrefix (bytes : List UInt8) : firstLine bytes <+: bytes := by
  induction bytes with
  | nil => simp [firstLine]
  | cons byte rest inductionHypothesis =>
      unfold firstLine
      split
      · exact List.prefix_append [byte] rest
      · exact List.cons_prefix_cons.mpr ⟨rfl, inductionHypothesis⟩

end Text
end Baseline
