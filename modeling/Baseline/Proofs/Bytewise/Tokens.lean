import Baseline.Proofs.Bytewise.Delimited
import Baseline.Proofs.Token.Scanning

/-!
# Tokens by byte offsets

The source is cut into words from an offset on.  At the start of each word a
string or a comment may start; it is taken whole, and the words are found anew
after it.  Operators are joined as their parts are read.  Offsets are added up
from the byte lengths of words, pieces and tokens, and at each of them the
source is sliced.  No slice fails, at whatever places the words are cut, so a
reading takes one string, comment or word after the other (`exists_reading`).
-/

namespace Baseline
namespace Bytewise

/-! ## Adding tokens -/

/-- Add punctuation, joined with the last token if it touches it and both make an operator;
tokens come last first. -/
def pushPunct (pieces : List Piece) (text : String) (start : Nat) : List Piece :=
  match pieces with
  | [] => [.at .punct text start]
  | last :: earlier =>
      if last.kind = .punct ∧ last.stop = start ∧ Token.isOperator (last.text ++ text) then
        { last with text := last.text ++ text, stop := start + text.utf8ByteSize } :: earlier
      else .at .punct text start :: pieces

/-- Add a part of a word, unless it is empty. -/
def pushPart (pieces : List Piece) (part : List Char) (start : Nat) : List Piece :=
  if part.isEmpty then pieces
  else .at (Token.classify part) (String.ofList part) start :: pieces

/-- Add the parts of a word between its dots, and from the second part on the dot before
it. -/
def pushParts (pieces : List Piece) (cursor : Nat) (dotted : Bool) : List (List Char) → List Piece
  | [] => pieces
  | part :: later =>
      let withDot := if dotted then pushPunct pieces "." cursor else pieces
      let start := if dotted then cursor + 1 else cursor
      pushParts (pushPart withDot part start) (start + String.utf8Len part) true later

/-- Add the tokens of a word. -/
def pushWord (pieces : List Piece) (word : List Char) (start : Nat) : List Piece :=
  if Token.classify word = .punct then pushPunct pieces (String.ofList word) start
  else if Token.classify word = .word ∧ word.contains '.' then
    pushParts pieces start false (Text.pieces '.' word)
  else .at (Token.classify word) (String.ofList word) start :: pieces

/-! ## Reading the source -/

/-- Words with their byte offsets. -/
def indices (index : Nat) : List (List Char) → List (Nat × List Char)
  | [] => []
  | word :: later => (index, word) :: indices (index + String.utf8Len word) later

/-- Read words that are found from an offset on, up to a string or a comment if there is
one.  The answer has the tokens and the offset after the string or comment. -/
def readWords (lines : LineIndex) (source : String) (offset : Nat) :
    List Piece → List (Nat × List Char) → Except Halt (List Piece × Option Nat)
  | pieces, [] => return (pieces, none)
  | pieces, (index, word) :: later => do
      let start := offset + index
      match ← scanDelimited lines source start with
      | some piece => return (piece :: pieces, some piece.stop)
      | none => readWords lines source offset (pushWord pieces word start) later

variable [Unicode.Segmentation]

/-- Read tokens from an offset on, in at most so many rounds. -/
def readFrom (lines : LineIndex) (source : String) :
    Nat → Nat → List Piece → Except Halt (List Piece)
  | 0, _, _ => .error .endless
  | rounds + 1, offset, pieces => do
      if offset < source.utf8ByteSize then
        let rest ← slice source offset source.utf8ByteSize
        match ← readWords lines source offset pieces (indices 0 (Unicode.words rest.toList)) with
        | (pieces, some stop) => readFrom lines source rounds stop pieces
        | (pieces, none) => return pieces
      else return pieces

/-- The tokens of a source.  Every round but the last one reads at least one byte. -/
def tokenize (lines : LineIndex) (source : String) : Except Halt (List Piece) :=
  List.reverse <$> readFrom lines source (source.utf8ByteSize + 1) 0 []

/-- From the tokens of the text before it, last first, a text is read with an answer. -/
inductive Reading : List Piece → List Char → List Char → Except Halt (List Piece) → Prop
  /-- The text is over. -/
  | done {pieces before} : Reading pieces before [] (.ok pieces)
  /-- A string or a comment that has no end starts here. -/
  | refused {pieces before text error}
      (scanned : Delimited.scan text = .error error) :
      Reading pieces before text (refuse error.message (Position.origin.advance before))
  /-- A string literal or a comment stands here. -/
  | delimited {pieces before text delimited answer}
      (scanned : Delimited.scan text = .ok (some delimited))
      (later : Reading
        (.at delimited.kind (String.ofList delimited.text) (String.utf8Len before) :: pieces)
        (before ++ delimited.text) delimited.rest answer) :
      Reading pieces before text answer
  /-- A word stands here. -/
  | word {pieces before first rest answer}
      (scanned : Delimited.scan (first :: rest) = .ok none)
      (later : Reading
        (pushWord pieces (Token.wordFrom first rest) (String.utf8Len before))
        (before ++ Token.wordFrom first rest) (Token.afterWord first rest) answer) :
      Reading pieces before (first :: rest) answer

variable
  {source : String}
  {before text : List Char}
  {pieces : List Piece}

/-! ## Reading step by step -/

/-- What follows the words that are found from an offset on. -/
def proceed (source : String) (rounds : Nat) :
    List Piece × Option Nat → Except Halt (List Piece)
  | (pieces, some stop) => readFrom (.ofText source) source rounds stop pieces
  | (pieces, none) => .ok pieces

/-- The rest of the source is cut into words and read, if there is a rest. -/
theorem readFrom_succ
    (source_eq : source.toList = before ++ text)
    (rounds : Nat)
    (pieces : List Piece) :
    readFrom (.ofText source) source (rounds + 1) (String.utf8Len before) pieces =
      readWords (.ofText source) source (String.utf8Len before) pieces
        (indices 0 (Unicode.words text)) >>= proceed source rounds := by
  have size_eq : source.utf8ByteSize = String.utf8Len before + String.utf8Len text := by
    rw [← String.utf8Len_toList, source_eq, String.utf8Len_append]
  rw [readFrom, slice_to_end source_eq, Answer.ok_bind, String.toList_ofList]
  cases text with
  | nil =>
      rw [Unicode.words_nil, if_neg (by simp [size_eq])]
      rfl
  | cons first rest =>
      have positive := first.utf8Size_pos
      rw [String.utf8Len_cons] at size_eq
      rw [if_pos (by omega)]
      rfl

/-- One word, unless a string or a comment starts with it. -/
theorem readWords_cons
    {offset index : Nat}
    {first : Char}
    {rest : List Char}
    (place : offset + index = String.utf8Len before)
    (source_eq : source.toList = before ++ first :: rest) :
    readWords (.ofText source) source offset pieces (indices index (Unicode.words (first :: rest))) =
      outcome before (Delimited.scan (first :: rest)) >>= fun
        | some piece => .ok (piece :: pieces, some piece.stop)
        | none =>
            readWords (.ofText source) source offset
              (pushWord pieces (Token.wordFrom first rest) (String.utf8Len before))
              (indices (index + String.utf8Len (Token.wordFrom first rest))
                (Unicode.words (Token.afterWord first rest))) := by
  rw [Unicode.words_cons, indices, readWords, place, scanDelimited_eq source_eq]
  rfl

/-- Words are read step by step, and so is what follows a string or a comment. -/
theorem reading_of_readWords
    {offset index rounds : Nat}
    (source_eq : source.toList = before ++ text)
    (place : offset + index = String.utf8Len before)
    (enough : text.length ≤ rounds) :
    Reading pieces before text
      (readWords (.ofText source) source offset pieces (indices index (Unicode.words text)) >>=
        proceed source rounds) := by
  -- A word leaves a shorter text to the same round, a string or a comment to the next one.
  induction length_eq : text.length using Nat.strong_induction_on
    generalizing before text pieces offset index rounds with
  | _ length inductionHypothesis =>
      subst length_eq
      cases text with
      | nil =>
          rw [Unicode.words_nil, indices, readWords]
          exact .done
      | cons first rest =>
          rw [readWords_cons place source_eq]
          cases scanned : Delimited.scan (first :: rest) with
          | error error => exact .refused scanned
          | ok found =>
              cases found with
              | some delimited =>
                  have rest_eq : source.toList = before ++ delimited.text ++ delimited.rest := by
                    rw [source_eq, List.append_assoc, Delimited.scan_append scanned]
                  have shorter := Delimited.length_rest_lt scanned
                  obtain ⟨fewer, rfl⟩ : ∃ fewer, rounds = fewer + 1 :=
                    Nat.exists_eq_add_one.mpr (by omega)
                  refine .delimited scanned ?_
                  change Reading _ _ _ (readFrom _ source _ (Piece.stop _) (Piece.at _ _ _ :: _))
                  rw [Piece.stop_of_delimited, readFrom_succ rest_eq]
                  exact inductionHypothesis _ shorter rest_eq (Nat.add_zero _) (by omega) rfl
              | none =>
                  have rest_eq : source.toList =
                      before ++ Token.wordFrom first rest ++ Token.afterWord first rest := by
                    rw [source_eq, List.append_assoc, Token.wordFrom_append_afterWord]
                  have laterPlace :
                      offset + (index + String.utf8Len (Token.wordFrom first rest)) =
                        String.utf8Len (before ++ Token.wordFrom first rest) := by
                    rw [String.utf8Len_append, ← place, Nat.add_assoc]
                  have shorter : (Token.afterWord first rest).length < (first :: rest).length := by
                    rw [Token.afterWord, List.length_drop, List.length_cons]
                    omega
                  exact .word scanned
                    (inductionHypothesis _ shorter rest_eq laterPlace (by omega) rfl)

/-- A source is read step by step. -/
theorem exists_reading (source : String) :
    ∃ answer, Reading [] [] source.toList answer ∧
      tokenize (.ofText source) source = answer.map List.reverse := by
  have enough : source.toList.length ≤ source.utf8ByteSize := by
    rw [← String.utf8Len_toList]
    exact Text.length_le_utf8Len source.toList
  have source_eq : source.toList = [] ++ source.toList := rfl
  refine ⟨_, reading_of_readWords source_eq (Nat.add_zero 0) enough, ?_⟩
  rw [tokenize]
  exact congrArg (Except.map List.reverse) (readFrom_succ source_eq source.utf8ByteSize [])

end Bytewise
end Baseline
