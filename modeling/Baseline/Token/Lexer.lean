import Baseline.ParseFailure
import Baseline.Token.Delimited
import Baseline.Token.Operator
import Baseline.Unicode.Alphanumeric
import Baseline.Unicode.Blank
import Baseline.Unicode.Words

/-!
# From text to tokens

A text is read from left to right.  Where a string literal or a comment starts
it is taken whole; elsewhere the next word of the segmentation is taken.  A word
with dots in it is cut at the dots, and touching punctuation is joined into
operators at the end.
-/

namespace Baseline
namespace Token

/-- The kind of a word of the segmentation. -/
def classify (segment : List Char) : TokenKind :=
  if segment.all Text.isLineBreak then .newline
  else if segment.all Unicode.isBlank then .whitespace
  else if segment.head?.any Char.isDigit then .number
  else if segment.any fun char => Unicode.isAlphanumeric char || char == '_' then .word
  else .punct

/-- A segment as a token of its kind. -/
def ofSegment (start : Position) (segment : List Char) : Token :=
  ⟨classify segment, String.ofList segment, start⟩

/-- The tokens of a text cut at its dots: one for each dot, and one for each
piece that is not empty. -/
def ofPieces (start : Position) : List (List Char) → List Token
  | [] => []
  | [piece] => if piece.isEmpty then [] else [ofSegment start piece]
  | piece :: later =>
      let dot := start.advance piece
      (if piece.isEmpty then [] else [ofSegment start piece]) ++
        ⟨.punct, ".", dot⟩ :: ofPieces (dot.next '.') later

/-- The tokens of one word of the segmentation.  Word boundaries keep a letter,
a dot and a letter together; they are taken apart here. -/
def ofWord (start : Position) (word : List Char) : List Token :=
  if classify word = .word ∧ word.contains '.' then
    ofPieces start (Text.pieces '.' word)
  else [ofSegment start word]

variable [Unicode.Segmentation]

/-- The tokens of the text from a position on, operators not yet joined. -/
def scanFrom (start : Position) (text : List Char) : Except ParseFailure (List Token) :=
  match scanned : Delimited.scan text with
  | .error error => .error ⟨error.message, some start⟩
  | .ok (some delimited) => do
      have := Delimited.length_rest_lt scanned
      let later ← scanFrom (start.advance delimited.text) delimited.rest
      return ⟨delimited.kind, String.ofList delimited.text, start⟩ :: later
  | .ok none =>
      match text with
      | [] => .ok []
      | first :: rest => do
          let count := Unicode.Segmentation.wordTail first rest
          let word := first :: rest.take count
          let later ← scanFrom (start.advance word) (rest.drop count)
          return ofWord start word ++ later
  termination_by text.length
  decreasing_by
  · assumption
  · simp only [List.length_drop, List.length_cons]
    omega

end Token

/-- The tokens of a source text, white space and comments included. -/
def tokenize [Unicode.Segmentation] (source : String) : Except ParseFailure (List Token) :=
  Token.joinOperators <$> Token.scanFrom .origin source.toList

end Baseline
