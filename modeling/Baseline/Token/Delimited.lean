import Baseline.Text.LineBreaks
import Baseline.Token.Basic

/-!
# Strings and comments

String literals and comments are found by their delimiters, without regard to
word boundaries.  A line comment runs up to the next line break, a block
comment through its first end mark, a string literal through the first quote
that no backslash escapes; only literals in backticks may span lines.

`Delimited.scan_append` states that what is found and what is left make up the
text.
-/

namespace Baseline

/-- Why a delimited token cannot be read. -/
inductive DelimitedError
  /-- A block comment has no end mark. -/
  | unterminatedComment
  /-- A string literal has no closing quote. -/
  | unterminatedString
  deriving DecidableEq, Repr

namespace DelimitedError

/-- The error in words. -/
def message : DelimitedError → String
  | .unterminatedComment => "unterminated block comment"
  | .unterminatedString => "unterminated string literal"

end DelimitedError

/-- A delimited token at the start of a text, and the text after it. -/
structure Delimited where
  /-- Whether a string or a comment was read. -/
  kind : TokenKind
  /-- The text read, delimiters included. -/
  text : List Char
  /-- The text not read. -/
  rest : List Char

namespace Delimited

/-- The text through the first end mark of a block comment, and the rest. -/
def throughEndMark : List Char → Option (List Char × List Char)
  | [] => none
  | '*' :: '/' :: rest => some (['*', '/'], rest)
  | char :: rest => (throughEndMark rest).map fun (body, after) => (char :: body, after)

/-- The text through the first closing quote, and the rest.  A backslash takes
the next character with it, whatever it is. -/
def throughQuote (quote : Char) : List Char → Option (List Char × List Char)
  | [] => none
  | '\\' :: [] => none
  | '\\' :: escaped :: rest =>
      (throughQuote quote rest).map fun (body, after) => ('\\' :: escaped :: body, after)
  | char :: rest =>
      if char = quote then some ([quote], rest)
      else if char = '\n' ∧ quote ≠ '`' then none
      else (throughQuote quote rest).map fun (body, after) => (char :: body, after)

/-- Quotation mark, apostrophe and backtick start string literals. -/
def isQuote (char : Char) : Bool :=
  char == '"' || char == '\'' || char == '`'

/-- The characters that a line comment may hold. -/
def inLine (char : Char) : Bool :=
  !Text.isLineBreak char

/-- The string literal or comment at the start of the text, if there is one. -/
def scan : List Char → Except DelimitedError (Option Delimited)
  | '/' :: '/' :: rest =>
      .ok (some ⟨.comment, '/' :: '/' :: rest.takeWhile inLine, rest.dropWhile inLine⟩)
  | '/' :: '*' :: rest =>
      match throughEndMark rest with
      | some (body, after) => .ok (some ⟨.comment, '/' :: '*' :: body, after⟩)
      | none => .error .unterminatedComment
  | [] => .ok none
  | quote :: rest =>
      if isQuote quote then
        match throughQuote quote rest with
        | some (body, after) => .ok (some ⟨.string, quote :: body, after⟩)
        | none => .error .unterminatedString
      else .ok none

theorem throughEndMark_append
    {text body after : List Char}
    (found : throughEndMark text = some (body, after)) :
    body ++ after = text := by
  fun_induction throughEndMark text generalizing body after with
  | case1 => simp at found
  | case2 rest =>
      simp only [Option.some.injEq, Prod.mk.injEq] at found
      simp [← found.1, ← found.2]
  | case3 char rest _ inductionHypothesis =>
      simp only [Option.map_eq_some_iff, Prod.mk.injEq, Prod.exists] at found
      obtain ⟨shorter, left, found, rfl, rfl⟩ := found
      simp [inductionHypothesis found]

theorem throughQuote_append
    {quote : Char}
    {text body after : List Char}
    (found : throughQuote quote text = some (body, after)) :
    body ++ after = text := by
  fun_induction throughQuote quote text generalizing body after with
  | case1 => simp at found
  | case2 => simp at found
  | case3 escaped rest inductionHypothesis =>
      simp only [Option.map_eq_some_iff, Prod.mk.injEq, Prod.exists] at found
      obtain ⟨shorter, left, found, rfl, rfl⟩ := found
      simp [inductionHypothesis found]
  | case4 rest =>
      simp only [Option.some.injEq, Prod.mk.injEq] at found
      simp [← found.1, ← found.2]
  | case5 => simp at found
  | case6 char rest _ _ _ _ inductionHypothesis =>
      simp only [Option.map_eq_some_iff, Prod.mk.injEq, Prod.exists] at found
      obtain ⟨shorter, left, found, rfl, rfl⟩ := found
      simp [inductionHypothesis found]

/-- What is read and what is left make up the text. -/
theorem scan_append
    {text : List Char}
    {delimited : Delimited}
    (scanned : scan text = .ok (some delimited)) :
    delimited.text ++ delimited.rest = text := by
  fun_cases scan text with
  | case1 rest =>
      simp only [scan, Except.ok.injEq, Option.some.injEq] at scanned
      simp [← scanned, List.takeWhile_append_dropWhile]
  | case2 rest body after found =>
      simp only [scan, found, Except.ok.injEq, Option.some.injEq] at scanned
      simp [← scanned, throughEndMark_append found]
  | case3 rest missing => simp [scan, missing] at scanned
  | case4 => simp [scan] at scanned
  | case5 quote rest notLine notBlock quotes body after found =>
      rw [scan] at scanned
      · simp only [quotes, if_true, found, Except.ok.injEq, Option.some.injEq] at scanned
        simp [← scanned, throughQuote_append found]
      all_goals assumption
  | case6 quote rest notLine notBlock quotes missing =>
      rw [scan] at scanned
      · simp [quotes, missing] at scanned
      all_goals assumption
  | case7 quote rest notLine notBlock quotes =>
      rw [scan] at scanned
      · simp [quotes] at scanned
      all_goals assumption

/-- A delimited token is not empty. -/
theorem text_ne_nil
    {text : List Char}
    {delimited : Delimited}
    (scanned : scan text = .ok (some delimited)) :
    delimited.text ≠ [] := by
  fun_cases scan text with
  | case1 rest =>
      simp only [scan, Except.ok.injEq, Option.some.injEq] at scanned
      simp [← scanned]
  | case2 rest body after found =>
      simp only [scan, found, Except.ok.injEq, Option.some.injEq] at scanned
      simp [← scanned]
  | case3 rest missing => simp [scan, missing] at scanned
  | case4 => simp [scan] at scanned
  | case5 quote rest notLine notBlock quotes body after found =>
      rw [scan] at scanned
      · simp only [quotes, if_true, found, Except.ok.injEq, Option.some.injEq] at scanned
        simp [← scanned]
      all_goals assumption
  | case6 quote rest notLine notBlock quotes missing =>
      rw [scan] at scanned
      · simp [quotes, missing] at scanned
      all_goals assumption
  | case7 quote rest notLine notBlock quotes =>
      rw [scan] at scanned
      · simp [quotes] at scanned
      all_goals assumption

/-- A delimited token leaves less than the text. -/
theorem length_rest_lt
    {text : List Char}
    {delimited : Delimited}
    (scanned : scan text = .ok (some delimited)) :
    delimited.rest.length < text.length := by
  have lengths := congrArg List.length (scan_append scanned)
  have positive := List.length_pos_iff.mpr (text_ne_nil scanned)
  rw [List.length_append] at lengths
  omega

end Delimited
end Baseline
