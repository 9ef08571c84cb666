import Baseline.Proofs.Text.Boundary
import Baseline.Proofs.Token.Scanning
import Mathlib.Data.List.TakeWhile

/-!
# The grammar of strings and comments

What strings and comments look like is told without a search: a string literal is a quote, some
units and the same quote, a block comment is all that stands between its marks, and a line
comment goes on to the next line break (`Delimited.Reads`).  Of all texts of such a form that a
source goes on with, the shortest one is read, and where there is none, the source is refused
(`strings_and_comments_follow_grammar`).
-/

namespace Baseline
namespace Delimited

/-- The shortest text of a form that another text starts with. -/
structure Shortest (form : List Char → Prop) (found text : List Char) : Prop where
  /-- The text starts with it. -/
  starts : found <+: text
  /-- It has the form. -/
  fits : form found
  /-- No other text of the form that the text starts with is shorter. -/
  least {other : List Char} : other <+: text → form other → found.length ≤ other.length

/-- The text does not start with any text of a form. -/
def Lacks (form : List Char → Prop) (text : List Char) : Prop :=
  ∀ found, found <+: text → ¬form found

/-- All of a text before its first line break; if there is none, all of it. -/
def UpToBreak (found text : List Char) : Prop :=
  ∃ after, text = found ++ after ∧
    (∀ char ∈ found, char ≠ '\r' ∧ char ≠ '\n') ∧
      ∀ char, after.head? = some char → char = '\r' ∨ char = '\n'

/-- A start mark, any text, and an end mark. -/
def IsBlockComment (text : List Char) : Prop :=
  ∃ body, text = '/' :: '*' :: (body ++ ['*', '/'])

/-- What may stand between two quotes: characters that a backslash escapes, and others that are
neither a backslash nor the quote.  Only between backticks a line feed needs no backslash. -/
inductive Units (quote : Char) : List Char → Prop
  /-- Nothing. -/
  | nil : Units quote []
  /-- A backslash and the character that it escapes. -/
  | escaped (char : Char) {rest : List Char} :
      Units quote rest → Units quote ('\\' :: char :: rest)
  /-- A character that stands for itself. -/
  | plain {char : Char} {rest : List Char} :
      char ≠ '\\' → char ≠ quote → (char = '\n' → quote = '`') →
        Units quote rest → Units quote (char :: rest)

/-- A quote, some units, and the quote again. -/
def IsLiteral (quote : Char) (text : List Char) : Prop :=
  ∃ units, Units quote units ∧ text = quote :: (units ++ [quote])

/-- What the grammar says of a text that goes on from a position: the string or comment there,
nothing, or the failure. -/
inductive Reads (start : Position) (text : List Char) :
    Except ParseFailure (Option Token) → Prop
  /-- A line comment. -/
  | lineComment {found : List Char} :
      ['/', '/'] <+: text → UpToBreak found text →
        Reads start text (.ok (some ⟨.comment, String.ofList found, start⟩))
  /-- A block comment. -/
  | blockComment {found : List Char} :
      ['/', '*'] <+: text → Shortest IsBlockComment found text →
        Reads start text (.ok (some ⟨.comment, String.ofList found, start⟩))
  /-- A block comment that is not ended. -/
  | openComment :
      ['/', '*'] <+: text → Lacks IsBlockComment text →
        Reads start text (.error ⟨"unterminated block comment", some start⟩)
  /-- A string literal. -/
  | literal {quote : Char} {found : List Char} :
      quote ∈ ['"', '\'', '`'] → text.head? = some quote → Shortest (IsLiteral quote) found text →
        Reads start text (.ok (some ⟨.string, String.ofList found, start⟩))
  /-- A string literal that is not ended. -/
  | openLiteral {quote : Char} :
      quote ∈ ['"', '\'', '`'] → text.head? = some quote → Lacks (IsLiteral quote) text →
        Reads start text (.error ⟨"unterminated string literal", some start⟩)
  /-- Neither a string literal nor a comment. -/
  | nothing :
      ¬['/', '/'] <+: text → ¬['/', '*'] <+: text →
        (∀ quote ∈ ['"', '\'', '`'], text.head? ≠ some quote) →
          Reads start text (.ok none)

variable
  {form : List Char → Prop}
  {text found other rest body after : List Char}
  {quote : Char}
  {start : Position}
  {outcome : Except ParseFailure (Option Token)}

theorem Shortest.unique (left : Shortest form found text) (right : Shortest form other text) :
    found = other := by
  have lengths : found.length = other.length :=
    le_antisymm (left.least right.starts right.fits) (right.least left.starts left.fits)
  exact (List.prefix_of_prefix_length_le left.starts right.starts lengths.le).eq_of_length lengths

/-! ## Searching -/

/-- A search gives the shortest text of a form, or nothing if there is none. -/
def Searches (form : List Char → Prop) (text : List Char) : Option (List Char) → Prop
  | some found => Shortest form found text
  | none => Lacks form text

variable {search : Option (List Char)}

theorem Searches.eq_some
    (searches : Searches form text search)
    (shortest : Shortest form found text) :
    search = some found := by
  cases search with
  | none => exact absurd shortest.fits (searches found shortest.starts)
  | some other => rw [Shortest.unique searches shortest]

theorem Searches.eq_none (searches : Searches form text search) (lacks : Lacks form text) :
    search = none := by
  cases search with
  | none => rfl
  | some other => exact absurd searches.fits (lacks other searches.starts)

/-- A search after a mark gives the shortest text of a form if what it finds has the form and
it finds something at least as short as any text of the form. -/
theorem searches_after
    {mark : List Char}
    {search : Option (List Char × List Char)}
    (fits : ∀ body after,
      search = some (body, after) → body ++ after = text ∧ form (mark ++ body))
    (covers : ∀ other, other <+: mark ++ text → form other →
      ∃ body after, search = some (body, after) ∧ (mark ++ body).length ≤ other.length) :
    Searches form (mark ++ text) (search.map fun found => mark ++ found.1) := by
  cases found : search with
  | none =>
      intro other starts hasForm
      obtain ⟨body, after, found', _⟩ := covers other starts hasForm
      rw [found] at found'
      cases found'
  | some pair =>
      obtain ⟨body, after⟩ := pair
      obtain ⟨text_eq, hasForm⟩ := fits body after found
      refine ⟨⟨after, ?_⟩, hasForm, fun {other} starts otherForm => ?_⟩
      · rw [List.append_assoc, text_eq]
      · obtain ⟨first, rest, found', shorter⟩ := covers other starts otherForm
        rw [found] at found'
        cases found'
        exact shorter

/-! ## Line comments -/

theorem inLine_eq_true_iff {char : Char} : inLine char = true ↔ char ≠ '\r' ∧ char ≠ '\n' := by
  simp [inLine, Text.isLineBreak]

theorem upToBreak_iff : UpToBreak found text ↔ text.takeWhile inLine = found := by
  constructor
  · rintro ⟨after, rfl, within, ends⟩
    have stops : after.takeWhile inLine = [] := by
      cases after with
      | nil => rfl
      | cons char rest =>
          rw [List.takeWhile_cons_of_neg]
          rw [inLine_eq_true_iff]
          rintro ⟨noReturn, noFeed⟩
          exact (ends char rfl).elim noReturn noFeed
    rw [List.takeWhile_append_of_pos fun char member => inLine_eq_true_iff.mpr (within char member),
      stops, List.append_nil]
  · rintro rfl
    refine ⟨text.dropWhile inLine, List.takeWhile_append_dropWhile.symm, ?_, ?_⟩
    · intro char member
      exact inLine_eq_true_iff.mp (List.mem_takeWhile_imp member)
    · intro char first
      have breaks := List.head?_dropWhile_not inLine text
      rw [first] at breaks
      simpa [inLine, Text.isLineBreak, or_iff_not_imp_left] using breaks

/-! ## Block comments -/

/-- The first end mark ends the text at least as early as any other. -/
theorem exists_throughEndMark (body after : List Char) :
    ∃ through rest, throughEndMark (body ++ '*' :: '/' :: after) = some (through, rest) ∧
      through.length ≤ body.length + 2 := by
  induction body with
  | nil => exact ⟨['*', '/'], after, rfl, le_rfl⟩
  | cons char body inductionHypothesis =>
      obtain ⟨through, rest, found, shorter⟩ := inductionHypothesis
      by_cases ends : char = '*' ∧ (body ++ '*' :: '/' :: after).head? = some '/'
      · obtain ⟨rfl, next⟩ := ends
        obtain ⟨later, text_eq⟩ := List.head?_eq_some_iff.mp next
        rw [List.cons_append, text_eq]
        exact ⟨['*', '/'], later, rfl, by simp⟩
      · have notEnd (later : List Char) (isStar : char = '*') :
            body ++ '*' :: '/' :: after ≠ '/' :: later := by
          intro text_eq
          rw [text_eq] at ends
          exact ends ⟨isStar, rfl⟩
        rw [List.cons_append, throughEndMark_cons notEnd, found]
        exact ⟨char :: through, rest, rfl, Nat.succ_le_succ shorter⟩

theorem exists_body_of_throughEndMark (found : throughEndMark text = some (body, after)) :
    ∃ inner, body = inner ++ ['*', '/'] := by
  fun_induction throughEndMark text generalizing body after with
  | case1 => cases found
  | case2 rest =>
      cases found
      exact ⟨[], rfl⟩
  | case3 char rest _ inductionHypothesis =>
      obtain ⟨⟨shorter, left⟩, found, pair_eq⟩ := Option.map_eq_some_iff.mp found
      cases pair_eq
      obtain ⟨inner, rfl⟩ := inductionHypothesis found
      exact ⟨char :: inner, rfl⟩

/-- After the start mark the first end mark is searched. -/
theorem searches_blockComment (text : List Char) :
    Searches IsBlockComment (['/', '*'] ++ text)
      ((throughEndMark text).map fun found => ['/', '*'] ++ found.1) := by
  refine searches_after (fun body after found => ⟨throughEndMark_append found, ?_⟩) ?_
  · obtain ⟨inner, rfl⟩ := exists_body_of_throughEndMark found
    exact ⟨inner, rfl⟩
  · rintro _ ⟨after, text_eq⟩ ⟨body, rfl⟩
    obtain ⟨through, rest, found, shorter⟩ := exists_throughEndMark body after
    have text_eq : text = body ++ '*' :: '/' :: after := by simpa using text_eq.symm
    rw [← text_eq] at found
    exact ⟨through, rest, found, by simpa using shorter⟩

/-! ## String literals -/

/-- No quote in the units ends them. -/
theorem throughQuote_of_units
    (notBackslash : quote ≠ '\\')
    (units : Units quote body)
    (after : List Char) :
    throughQuote quote (body ++ quote :: after) = some (body ++ [quote], after) := by
  induction units with
  | nil => exact (throughQuote_cons notBackslash after).trans (if_pos rfl)
  | escaped char _ inductionHypothesis =>
      rw [List.cons_append, List.cons_append, throughQuote, inductionHypothesis]
      rfl
  | plain noBackslash different inLine _ inductionHypothesis =>
      rw [List.cons_append, throughQuote_cons noBackslash, if_neg different,
        if_neg fun breaks => breaks.2 (inLine breaks.1), inductionHypothesis]
      rfl

theorem exists_units_of_throughQuote (found : throughQuote quote text = some (body, after)) :
    ∃ units, Units quote units ∧ body = units ++ [quote] := by
  fun_induction throughQuote quote text generalizing body after with
  | case1 => cases found
  | case2 => cases found
  | case3 escaped rest inductionHypothesis =>
      obtain ⟨⟨shorter, left⟩, found, pair_eq⟩ := Option.map_eq_some_iff.mp found
      cases pair_eq
      obtain ⟨units, are, rfl⟩ := inductionHypothesis found
      exact ⟨'\\' :: escaped :: units, .escaped escaped are, rfl⟩
  | case4 rest =>
      cases found
      exact ⟨[], .nil, rfl⟩
  | case5 => cases found
  | case6 char rest notLast notEscaping different goesOn inductionHypothesis =>
      obtain ⟨⟨shorter, left⟩, found, pair_eq⟩ := Option.map_eq_some_iff.mp found
      cases pair_eq
      obtain ⟨units, are, rfl⟩ := inductionHypothesis found
      have inLine (feed : char = '\n') : quote = '`' :=
        not_not.mp fun noBacktick => goesOn ⟨feed, noBacktick⟩
      exact ⟨char :: units, .plain (ne_backslash notLast notEscaping) different inLine are, rfl⟩

/-- After the quote the first one is searched that no backslash escapes. -/
theorem searches_literal (notBackslash : quote ≠ '\\') (text : List Char) :
    Searches (IsLiteral quote) ([quote] ++ text)
      ((throughQuote quote text).map fun found => [quote] ++ found.1) := by
  refine searches_after (fun body after found => ⟨throughQuote_append found, ?_⟩) ?_
  · obtain ⟨units, are, rfl⟩ := exists_units_of_throughQuote found
    exact ⟨units, are, rfl⟩
  · rintro _ ⟨after, text_eq⟩ ⟨units, are, rfl⟩
    have text_eq : text = units ++ quote :: after := by simpa using text_eq.symm
    exact ⟨_, after, text_eq ▸ throughQuote_of_units notBackslash are after, le_rfl⟩

end Delimited

namespace Token

open Delimited (Reads isQuote throughEndMark throughQuote)

/-- The string literal or comment that the text at a position starts with. -/
def readDelimited (start : Position) (text : List Char) : Except ParseFailure (Option Token) :=
  match Delimited.scan text with
  | .error error => .error ⟨error.message, some start⟩
  | .ok found =>
      .ok <| found.map fun delimited => ⟨delimited.kind, String.ofList delimited.text, start⟩

/-- The token that a search finds, or the failure if it finds nothing. -/
def ofSearch (kind : TokenKind) (error : DelimitedError) (start : Position) :
    Option (List Char) → Except ParseFailure (Option Token)
  | some found => .ok (some ⟨kind, String.ofList found, start⟩)
  | none => .error ⟨error.message, some start⟩

/-- The tokens of a text, given what it starts with: nothing after a failure, the token that was
read and those after it, or else the next word and the tokens after that. -/
def scanAfter [Unicode.Segmentation] (start : Position) (text : List Char) :
    Except ParseFailure (Option Token) → Except ParseFailure (List Token)
  | .error failure => .error failure
  | .ok (some token) =>
      let read := token.text.toList
      (scanFrom (start.advance read) (text.drop read.length)).map fun later => token :: later
  | .ok none =>
      match text with
      | [] => .ok []
      | first :: rest =>
          let word := wordFrom first rest
          (scanFrom (start.advance word) (afterWord first rest)).map fun later =>
            ofWord start word ++ later

variable
  {start : Position}
  {text : List Char}
  {quote : Char}
  {outcome : Except ParseFailure (Option Token)}

theorem readDelimited_lineMark (start : Position) (text : List Char) :
    readDelimited start (['/', '/'] ++ text) =
      .ok (some ⟨.comment,
        String.ofList ((['/', '/'] ++ text).takeWhile Delimited.inLine), start⟩) := rfl

theorem readDelimited_blockMark (start : Position) (text : List Char) :
    readDelimited start (['/', '*'] ++ text) =
      ofSearch .comment .unterminatedComment start
        ((throughEndMark text).map fun found => ['/', '*'] ++ found.1) := by
  simp only [readDelimited, List.cons_append, List.nil_append, Delimited.scan]
  cases throughEndMark text <;> rfl

theorem mem_quotes_iff : quote ∈ ['"', '\'', '`'] ↔ isQuote quote = true := by
  simp [isQuote, or_assoc]

theorem ne_backslash_of_mem (isQuote : quote ∈ ['"', '\'', '`']) : quote ≠ '\\' := by
  rintro rfl
  simp at isQuote

theorem readDelimited_quote
    (isQuote : quote ∈ ['"', '\'', '`'])
    (start : Position)
    (text : List Char) :
    readDelimited start ([quote] ++ text) =
      ofSearch .string .unterminatedString start
        ((throughQuote quote text).map fun found => [quote] ++ found.1) := by
  rw [readDelimited, List.singleton_append]
  cases found : throughQuote quote text with
  | none => rw [Delimited.scan_quote_of_none (mem_quotes_iff.mp isQuote) found]; rfl
  | some pair => rw [Delimited.scan_quote_of_some (mem_quotes_iff.mp isQuote) found]; rfl

theorem readDelimited_other
    (noLine : ¬['/', '/'] <+: text)
    (noBlock : ¬['/', '*'] <+: text)
    (noQuote : ∀ quote ∈ ['"', '\'', '`'], text.head? ≠ some quote) :
    readDelimited start text = .ok none := by
  have scanned : Delimited.scan text = .ok none := by
    cases text with
    | nil => rfl
    | cons first rest =>
        have notQuote : isQuote first ≠ true := fun isQuote =>
          noQuote first (mem_quotes_iff.mpr isQuote) rfl
        refine Delimited.scan_other notQuote ?_ ?_
        · rintro later rfl rfl
          exact noLine ⟨later, rfl⟩
        · rintro later rfl rfl
          exact noBlock ⟨later, rfl⟩
  rw [readDelimited, scanned]
  rfl

/-- What is read is what the grammar says. -/
theorem reads_readDelimited (start : Position) (text : List Char) :
    Reads start text (readDelimited start text) := by
  by_cases lineMark : ['/', '/'] <+: text
  · obtain ⟨rest, rfl⟩ := lineMark
    rw [readDelimited_lineMark]
    exact .lineComment ⟨rest, rfl⟩ (Delimited.upToBreak_iff.mpr rfl)
  by_cases blockMark : ['/', '*'] <+: text
  · obtain ⟨rest, rfl⟩ := blockMark
    have searches := Delimited.searches_blockComment rest
    rw [readDelimited_blockMark]
    cases found : throughEndMark rest with
    | none =>
        rw [found] at searches
        exact .openComment ⟨rest, rfl⟩ searches
    | some pair =>
        rw [found] at searches
        exact .blockComment ⟨rest, rfl⟩ searches
  by_cases quoted : ∃ quote ∈ ['"', '\'', '`'], text.head? = some quote
  · obtain ⟨quote, isQuote, first⟩ := quoted
    obtain ⟨rest, rfl⟩ := List.head?_eq_some_iff.mp first
    have searches := Delimited.searches_literal (ne_backslash_of_mem isQuote) rest
    have read := readDelimited_quote isQuote start rest
    rw [List.singleton_append] at read searches
    rw [read]
    cases found : throughQuote quote rest with
    | none =>
        rw [found] at searches
        exact .openLiteral isQuote rfl searches
    | some pair =>
        rw [found] at searches
        exact .literal isQuote rfl searches
  · have noQuote : ∀ quote ∈ ['"', '\'', '`'], text.head? ≠ some quote :=
      fun quote isQuote first => quoted ⟨quote, isQuote, first⟩
    rw [readDelimited_other lineMark blockMark noQuote]
    exact .nothing lineMark blockMark noQuote

/-- The grammar says one thing only. -/
theorem readDelimited_of_reads (reads : Reads start text outcome) :
    readDelimited start text = outcome := by
  cases reads with
  | lineComment mark upToBreak =>
      obtain ⟨rest, rfl⟩ := mark
      rw [readDelimited_lineMark, Delimited.upToBreak_iff.mp upToBreak]
  | blockComment mark shortest =>
      obtain ⟨rest, rfl⟩ := mark
      rw [readDelimited_blockMark, (Delimited.searches_blockComment rest).eq_some shortest,
        ofSearch]
  | openComment mark lacks =>
      obtain ⟨rest, rfl⟩ := mark
      rw [readDelimited_blockMark, (Delimited.searches_blockComment rest).eq_none lacks]
      rfl
  | literal isQuote first shortest =>
      obtain ⟨rest, rfl⟩ := List.head?_eq_some_iff.mp first
      have searches := Delimited.searches_literal (ne_backslash_of_mem isQuote) rest
      refine (readDelimited_quote isQuote start rest).trans ?_
      rw [searches.eq_some shortest, ofSearch]
  | openLiteral isQuote first lacks =>
      obtain ⟨rest, rfl⟩ := List.head?_eq_some_iff.mp first
      have searches := Delimited.searches_literal (ne_backslash_of_mem isQuote) rest
      refine (readDelimited_quote isQuote start rest).trans ?_
      rw [searches.eq_none lacks]
      rfl
  | nothing noLine noBlock noQuote => exact readDelimited_other noLine noBlock noQuote

/-- The end mark of a comment shares no character with its start mark. -/
example : readDelimited .origin "/*/".toList =
    .error ⟨"unterminated block comment", some .origin⟩ := by
  decide +kernel

/-- The scan reads at each place of a source what the grammar says. -/
theorem scanFrom_eq [Unicode.Segmentation] (start : Position) (text : List Char) :
    scanFrom start text = scanAfter start text (readDelimited start text) := by
  rw [readDelimited]
  cases scanned : Delimited.scan text with
  | error error => exact scanFrom_of_error scanned
  | ok found =>
      cases found with
      | none =>
          cases text with
          | nil => exact scanFrom_nil
          | cons first rest => exact scanFrom_of_word scanned
      | some delimited =>
          have drop_eq : text.drop delimited.text.length = delimited.rest := by
            rw [← Delimited.scan_append scanned, List.drop_left]
          simp only [Option.map_some, scanAfter, String.toList_ofList, drop_eq]
          exact scanFrom_of_delimited scanned

/-- At every place of a source string literals and comments are read as the grammar says, a
failure has the position of the place, and the scan of the source does there what was read. -/
theorem strings_and_comments_follow_grammar
    [Unicode.Segmentation]
    (before rest : List Char) :
    let start := Position.origin.advance before
    Position.locate? (String.ofList (before ++ rest)) (String.utf8Len before) = some start ∧
      (∀ outcome, readDelimited start rest = outcome ↔ Reads start rest outcome) ∧
        scanFrom start rest = scanAfter start rest (readDelimited start rest) := by
  intro start
  refine ⟨Position.locate?_of_append String.toList_ofList, fun outcome => ⟨?_, ?_⟩,
    scanFrom_eq start rest⟩
  · rintro rfl
    exact reads_readDelimited start rest
  · exact readDelimited_of_reads

end Token
end Baseline
