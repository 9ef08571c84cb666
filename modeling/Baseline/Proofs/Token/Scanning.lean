import Baseline.Proofs.Answer
import Baseline.Token.Lexer

/-!
# Scanning as a relation

A scan that succeeds takes a string literal, a comment or a word at each of its
steps, and nothing else (`scanFrom_eq_ok_iff`).  What holds of the tokens of
every text is proved by induction on these steps.
-/

namespace Baseline

namespace Delimited

/-- What is found by its delimiters is a string or a comment. -/
theorem kind_of_scan
    {text : List Char}
    {delimited : Delimited}
    (scanned : scan text = .ok (some delimited)) :
    delimited.kind = .string ∨ delimited.kind = .comment := by
  unfold scan at scanned
  split at scanned
  next => cases scanned; exact .inr rfl
  next =>
    split at scanned
    next => cases scanned; exact .inr rfl
    next => cases scanned
  next => cases scanned
  next =>
    split at scanned
    next =>
      split at scanned
      next => cases scanned; exact .inl rfl
      next => cases scanned
    next => cases scanned

/-- A backslash either ends the text or escapes what follows. -/
theorem ne_backslash
    {char : Char}
    {rest : List Char}
    (notLast : char = '\\' → rest = [] → False)
    (notEscaping : ∀ escaped later, char = '\\' → rest = escaped :: later → False) :
    char ≠ '\\' := by
  intro isBackslash
  cases rest with
  | nil => exact notLast isBackslash rfl
  | cons escaped later => exact notEscaping escaped later isBackslash rfl

/-! ## One character of a string or comment -/

variable
  {text body after : List Char}
  {quote : Char}

/-- One more character in front of the first of two texts. -/
def consFirst (char : Char) (found : List Char × List Char) : List Char × List Char :=
  (char :: found.1, found.2)

/-- A character that starts no end mark is passed over. -/
theorem throughEndMark_cons
    {char : Char}
    {rest : List Char}
    (notEnd : ∀ later, char = '*' → rest = '/' :: later → False) :
    throughEndMark (char :: rest) = (throughEndMark rest).map (consFirst char) := by
  rw [throughEndMark]
  · rfl
  · exact notEnd

theorem throughQuote_cons {char : Char} (unescaped : char ≠ '\\') (rest : List Char) :
    throughQuote quote (char :: rest) =
      if char = quote then some ([quote], rest)
      else if char = '\n' ∧ quote ≠ '`' then none
      else (throughQuote quote rest).map (consFirst char) := by
  rw [throughQuote]
  · rfl
  · exact fun isBackslash _ => unescaped isBackslash
  · exact fun _ _ isBackslash _ => unescaped isBackslash

/-- A backslash takes the next character with it. -/
theorem throughQuote_escape (quote escaped : Char) (rest : List Char) :
    throughQuote quote ('\\' :: escaped :: rest) =
      ((throughQuote quote rest).map (consFirst escaped)).map (consFirst '\\') := by
  rw [throughQuote, Option.map_map]
  rfl

/-! ## What a text starts with -/

theorem ne_slash (isQuote : isQuote quote) : quote ≠ '/' := by
  rintro rfl
  cases isQuote

theorem scan_quote_of_some
    {rest : List Char}
    (isQuote : isQuote quote)
    (found : throughQuote quote rest = some (body, after)) :
    scan (quote :: rest) = .ok (some ⟨.string, quote :: body, after⟩) := by
  rw [scan]
  · simp only [isQuote, if_true, found]
  · exact fun _ isSlash _ => ne_slash isQuote isSlash
  · exact fun _ isSlash _ => ne_slash isQuote isSlash

theorem scan_quote_of_none
    {rest : List Char}
    (isQuote : isQuote quote)
    (missing : throughQuote quote rest = none) :
    scan (quote :: rest) = .error .unterminatedString := by
  rw [scan]
  · simp only [isQuote, if_true, missing]
  · exact fun _ isSlash _ => ne_slash isQuote isSlash
  · exact fun _ isSlash _ => ne_slash isQuote isSlash

theorem scan_other
    {first : Char}
    {rest : List Char}
    (notQuote : ¬isQuote first)
    (notLine : ∀ later, first = '/' → rest = '/' :: later → False)
    (notBlock : ∀ later, first = '/' → rest = '*' :: later → False) :
    scan (first :: rest) = .ok none := by
  rw [scan, if_neg notQuote]
  · exact notLine
  · exact notBlock

end Delimited

namespace Token

/-- The word that starts with a character, if no string and no comment does. -/
def wordFrom [Unicode.Segmentation] (first : Char) (rest : List Char) : List Char :=
  first :: rest.take (Unicode.Segmentation.wordTail first rest)

/-- The text after that word. -/
def afterWord [Unicode.Segmentation] (first : Char) (rest : List Char) : List Char :=
  rest.drop (Unicode.Segmentation.wordTail first rest)

/-- At default word boundaries, the word is as long as their automaton says. -/
theorem wordFrom_eq (first : Char) (rest : List Char) :
    wordFrom first rest = first :: rest.take (Unicode.wordTail first rest) := rfl

theorem afterWord_eq (first : Char) (rest : List Char) :
    afterWord first rest = rest.drop (Unicode.wordTail first rest) := rfl

variable [Unicode.Segmentation]

theorem wordFrom_append_afterWord (first : Char) (rest : List Char) :
    wordFrom first rest ++ afterWord first rest = first :: rest := by
  rw [wordFrom, afterWord, List.cons_append, List.take_append_drop]

/-- From a position on, the text is read as these tokens. -/
inductive Scans : Position → List Char → List Token → Prop
  /-- The text is over. -/
  | done {start} : Scans start [] []
  /-- A string literal or a comment stands here. -/
  | delimited {start text delimited tokens}
      (scanned : Delimited.scan text = .ok (some delimited))
      (later : Scans (start.advance delimited.text) delimited.rest tokens) :
      Scans start text (⟨delimited.kind, String.ofList delimited.text, start⟩ :: tokens)
  /-- A word stands here. -/
  | word {start first rest tokens}
      (scanned : Delimited.scan (first :: rest) = .ok none)
      (later : Scans (start.advance (wordFrom first rest)) (afterWord first rest) tokens) :
      Scans start (first :: rest) (ofWord start (wordFrom first rest) ++ tokens)

variable
  {start : Position}
  {first : Char}
  {text rest : List Char}
  {tokens : List Token}
  {delimited : Delimited}
  {error : DelimitedError}

/-! ## One step of the scan -/

theorem scanFrom_of_error (scanned : Delimited.scan text = .error error) :
    scanFrom start text = .error ⟨error.message, some start⟩ := by
  rw [scanFrom]
  split <;> simp_all

theorem scanFrom_of_delimited (scanned : Delimited.scan text = .ok (some delimited)) :
    scanFrom start text =
      (scanFrom (start.advance delimited.text) delimited.rest).map fun later =>
        ⟨delimited.kind, String.ofList delimited.text, start⟩ :: later := by
  rw [scanFrom]
  split
  next failed => simp [scanned] at failed
  next found =>
    rw [scanned, Except.ok.injEq, Option.some.injEq] at found
    subst found
    rfl
  next missing => simp [scanned] at missing

theorem scanFrom_nil : scanFrom start [] = .ok [] := by
  rw [scanFrom]
  split
  next failed => simp [Delimited.scan] at failed
  next found => simp [Delimited.scan] at found
  next => rfl

theorem scanFrom_of_word (scanned : Delimited.scan (first :: rest) = .ok none) :
    scanFrom start (first :: rest) =
      (scanFrom (start.advance (wordFrom first rest)) (afterWord first rest)).map fun later =>
        ofWord start (wordFrom first rest) ++ later := by
  rw [scanFrom]
  split
  next failed => simp [scanned] at failed
  next found => simp [scanned] at found
  next => rfl

/-! ## The whole scan -/

theorem Scans.scanFrom_eq (scans : Scans start text tokens) :
    scanFrom start text = .ok tokens := by
  induction scans with
  | done => exact scanFrom_nil
  | delimited scanned later inductionHypothesis =>
      rw [scanFrom_of_delimited scanned, inductionHypothesis, Except.map]
  | word scanned later inductionHypothesis =>
      rw [scanFrom_of_word scanned, inductionHypothesis, Except.map]

theorem scans_of_scanFrom (found : scanFrom start text = .ok tokens) :
    Scans start text tokens := by
  induction start, text using scanFrom.induct generalizing tokens with
  | case1 start text error scanned => simp [scanFrom_of_error scanned] at found
  | case2 start text delimited scanned _ inductionHypothesis =>
      rw [scanFrom_of_delimited scanned] at found
      obtain ⟨later, laterFound, rfl⟩ := Answer.map_eq_ok_iff.mp found
      exact .delimited scanned (inductionHypothesis laterFound)
  | case3 start =>
      rw [scanFrom_nil, Except.ok.injEq] at found
      exact found ▸ .done
  | case4 start first rest scanned =>
      rename_i inductionHypothesis
      rw [scanFrom_of_word scanned] at found
      obtain ⟨later, laterFound, rfl⟩ := Answer.map_eq_ok_iff.mp found
      exact .word scanned (inductionHypothesis laterFound)

/-- A scan succeeds by reading the text step by step. -/
theorem scanFrom_eq_ok_iff : scanFrom start text = .ok tokens ↔ Scans start text tokens :=
  ⟨scans_of_scanFrom, Scans.scanFrom_eq⟩

end Token
end Baseline
