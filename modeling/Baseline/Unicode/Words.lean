import Baseline.Unicode.Pictographic
import Baseline.Unicode.WordBreak

/-!
# Word segmentation

A text is cut at its default word boundaries.  The scan of one word is an
automaton over the word break properties: after the first character it says,
for every further character, whether the word goes on.  Punctuation between
two letters or two digits belongs to the word only when the second letter or
digit follows, so the automaton remembers where to cut if it does not.

Any other way to cut a text from left to right is a `Segmentation` too.  Whatever
it answers, the words cover the text (`words_flatten`) and none of them is empty
(`ne_nil_of_mem_words`).
-/

namespace Baseline
namespace Unicode

/-- What the characters of the current word allow to follow. -/
inductive WordState
  /-- The word ends in a letter. -/
  | letter
  /-- The word ends in a Hebrew letter. -/
  | hebrew
  /-- The word ends in a digit. -/
  | digit
  /-- The word ends in a Katakana letter. -/
  | katakana
  /-- The word ends in a connector. -/
  | connector
  /-- The word is a run of spaces. -/
  | space
  /-- The word starts with an odd number of regional indicators. -/
  | indicator
  /-- The word is a complete flag. -/
  | flag
  /-- The word takes attaching characters only. -/
  | closed
  /-- A quote stands after a Hebrew letter; a letter may follow. -/
  | quoted
  /-- A letter must follow, else the word ends after `cut` characters. -/
  | needLetter (cut : Nat)
  /-- A Hebrew letter must follow, else the word ends after `cut` characters. -/
  | needHebrew (cut : Nat)
  /-- A digit must follow, else the word ends after `cut` characters. -/
  | needDigit (cut : Nat)
  deriving DecidableEq, Repr

namespace WordState

/-- The state after the first character of a word, if the word may go on. -/
def start : WordBreak → Option WordState
  | .aLetter => some .letter
  | .hebrewLetter => some .hebrew
  | .numeric => some .digit
  | .katakana => some .katakana
  | .extendNumLet => some .connector
  | .regionalIndicator => some .indicator
  | .wordSpace => some .space
  | .carriageReturn | .lineFeed | .newline => none
  | _ => some .closed

/-- The state after one more character that does not attach, or nothing when
the word ends before it.  The number counts the characters of the word so far;
`marked` says that an attaching character is among them. -/
def next (length : Nat) (marked : Bool) : WordState → WordBreak → Option WordState
  | .letter, .aLetter | .hebrew, .aLetter => some .letter
  | .letter, .hebrewLetter | .hebrew, .hebrewLetter => some .hebrew
  | .letter, .numeric | .hebrew, .numeric => some .digit
  | .letter, .extendNumLet | .hebrew, .extendNumLet => some .connector
  | .hebrew, .doubleQuote => some (.needHebrew length)
  | .hebrew, .singleQuote => some .quoted
  | .letter, .midLetter | .letter, .midNumLet | .letter, .singleQuote
  | .hebrew, .midLetter | .hebrew, .midNumLet => some (.needLetter length)
  | .digit, .numeric => some .digit
  | .digit, .aLetter => some .letter
  | .digit, .hebrewLetter => some .hebrew
  | .digit, .extendNumLet => some .connector
  | .digit, .midNum | .digit, .midNumLet | .digit, .singleQuote => some (.needDigit length)
  | .katakana, .katakana => some .katakana
  | .katakana, .extendNumLet => some .connector
  | .connector, .extendNumLet => some .connector
  | .connector, .aLetter => some .letter
  | .connector, .hebrewLetter => some .hebrew
  | .connector, .numeric => some .digit
  | .connector, .katakana => some .katakana
  | .space, .wordSpace => if marked then none else some .space
  | .indicator, .regionalIndicator => some .flag
  | .quoted, .aLetter | .needLetter _, .aLetter => some .letter
  | .quoted, .hebrewLetter | .needLetter _, .hebrewLetter | .needHebrew _, .hebrewLetter =>
      some .hebrew
  | .needDigit _, .numeric => some .digit
  | _, _ => none

/-- How many of the characters read so far belong to the word when it ends
here. -/
def cut (length : Nat) : WordState → Nat
  | .needLetter back | .needHebrew back | .needDigit back => back
  | _ => length

end WordState

/-- The number of characters of the word, of which `length` are already read.
`joined` says that the last of them is a zero width joiner; a pictograph after
it always belongs to the word. -/
def wordLength (state : WordState) (marked joined : Bool) (length : Nat) : List Char → Nat
  | [] => state.cut length
  | char :: rest =>
      let role := WordBreak.ofChar char
      if role.attaches then
        wordLength state true (role = .joiner) (length + 1) rest
      else if joined && isPictographic char then
        wordLength .closed marked false (length + 1) rest
      else
        match state.next length marked role with
        | some state => wordLength state marked false (length + 1) rest
        | none => state.cut length

/-- The number of characters after `first` that belong to the word it starts. -/
def wordTail (first : Char) (rest : List Char) : Nat :=
  match first, rest with
  | '\r', '\n' :: _ => 1
  | _, _ =>
      let role := WordBreak.ofChar first
      match WordState.start role with
      | some state => wordLength state false (role = .joiner) 1 rest - 1
      | none => 0

/-- A way to cut a text into words from left to right.  Any answer is allowed: it
is cut down to the text that is left, so the words always cover the text and none
of them is empty. -/
class Segmentation where
  /-- The number of characters after the first that belong to the word it starts. -/
  wordTail (first : Char) (rest : List Char) : Nat

/-- A text is cut at its default word boundaries. -/
instance : Segmentation := ⟨wordTail⟩

section Segmentation

variable [Segmentation]

/-- The words of a text, in order; spaces and punctuation are words too. -/
def words : List Char → List (List Char)
  | [] => []
  | first :: rest =>
      (first :: rest.take (Segmentation.wordTail first rest)) ::
        words (rest.drop (Segmentation.wordTail first rest))
  termination_by text => text.length
  decreasing_by simp only [List.length_drop, List.length_cons]; omega

@[simp] theorem words_nil : words [] = [] := by
  rw [words]

theorem words_cons (first : Char) (rest : List Char) :
    words (first :: rest) =
      (first :: rest.take (Segmentation.wordTail first rest)) ::
        words (rest.drop (Segmentation.wordTail first rest)) := by
  rw [words]

/-- The words of a text cover it. -/
theorem words_flatten (text : List Char) : (words text).flatten = text := by
  induction text using words.induct with
  | case1 => simp
  | case2 first rest inductionHypothesis =>
      rw [words_cons, List.flatten_cons, inductionHypothesis]
      simp

/-- No word is empty. -/
theorem ne_nil_of_mem_words
    {text word : List Char}
    (member : word ∈ words text) :
    word ≠ [] := by
  induction text using words.induct with
  | case1 => simp at member
  | case2 first rest inductionHypothesis =>
      rw [words_cons, List.mem_cons] at member
      rcases member with rfl | member
      · simp
      · exact inductionHypothesis member

end Segmentation

end Unicode
end Baseline
