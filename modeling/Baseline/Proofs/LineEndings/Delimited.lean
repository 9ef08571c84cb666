import Baseline.Proofs.LineEndings.Text
import Baseline.Proofs.Token.Scanning

/-!
# Line endings in strings and comments

Strings and comments are found in a text with carriage returns where they are
found without them, with one exception.  A backslash takes one character with
it, so in a quoted string it covers a line feed but not a carriage return with a
line feed, and the string has no end (`scan_addReturns`).
-/

namespace Baseline

namespace Delimited

/-- A string literal outside backticks that goes on in another line.  Its line feeds stand
after backslashes. -/
def IsContinued (delimited : Delimited) : Prop :=
  delimited.kind = .string ∧ delimited.text.head? ≠ some '`' ∧ '\n' ∈ delimited.text

instance (delimited : Delimited) : Decidable delimited.IsContinued :=
  inferInstanceAs (Decidable (_ ∧ _ ∧ _))

/-- The same token and the same rest with carriage returns. -/
def addReturns (delimited : Delimited) : Delimited :=
  ⟨delimited.kind, Text.addReturns delimited.text, Text.addReturns delimited.rest⟩

variable
  {text body after : List Char}
  {delimited : Delimited}
  {error : DelimitedError}
  {quote : Char}

/-- Two texts with carriage returns. -/
def addReturnsBoth (found : List Char × List Char) : List Char × List Char :=
  (Text.addReturns found.1, Text.addReturns found.2)

theorem addReturnsBoth_consFirst {char : Char} (other : char ≠ '\n') :
    addReturnsBoth ∘ consFirst char = consFirst char ∘ addReturnsBoth := by
  funext found
  simp only [Function.comp_apply, addReturnsBoth, consFirst, Text.addReturns_cons other]

theorem addReturnsBoth_consFirst_feed :
    addReturnsBoth ∘ consFirst '\n' = consFirst '\r' ∘ consFirst '\n' ∘ addReturnsBoth := rfl

/-- A block comment ends at the same end mark. -/
theorem throughEndMark_addReturns (text : List Char) :
    throughEndMark (Text.addReturns text) = (throughEndMark text).map addReturnsBoth := by
  fun_induction throughEndMark text with
  | case1 => rfl
  | case2 rest => rfl
  | case3 char rest notEnd inductionHypothesis =>
      change _ = ((throughEndMark rest).map (consFirst char)).map addReturnsBoth
      rw [Option.map_map]
      by_cases isFeed : char = '\n'
      · subst isFeed
        rw [Text.addReturns_feed, throughEndMark_cons (by simp), throughEndMark_cons (by simp),
          inductionHypothesis, Option.map_map, Option.map_map, addReturnsBoth_consFirst_feed,
          Function.comp_assoc]
      · have laterNotEnd : ∀ later, char = '*' → Text.addReturns rest = '/' :: later → False := by
          intro later isStar rest_eq
          obtain ⟨others, rest_eq⟩ := Text.eq_cons_of_addReturns_eq_cons (by decide) rest_eq
          exact notEnd others isStar rest_eq
        rw [Text.addReturns_cons isFeed, throughEndMark_cons laterNotEnd, inductionHypothesis,
          Option.map_map, addReturnsBoth_consFirst isFeed]

/-- What is found in a text with carriage returns: nothing if a quoted string would go on in
another line. -/
def closing (quote : Char) (found : Option (List Char × List Char)) :
    Option (List Char × List Char) :=
  (found.filter fun parts => quote = '`' ∨ '\n' ∉ parts.1).map addReturnsBoth

theorem closing_some (quote : Char) (parts : List Char × List Char) :
    closing quote (some parts) =
      if quote = '`' ∨ '\n' ∉ parts.1 then some (addReturnsBoth parts) else none := by
  rw [closing, Option.filter_some]
  split
  next closes => rw [if_pos (of_decide_eq_true closes), Option.map_some]
  next open_ => rw [if_neg (of_decide_eq_false (Bool.eq_false_iff.mpr open_)), Option.map_none]

theorem closing_consFirst
    {char : Char}
    (other : char ≠ '\n')
    (found : Option (List Char × List Char)) :
    closing quote (found.map (consFirst char)) = (closing quote found).map (consFirst char) := by
  cases found with
  | none => rfl
  | some parts =>
      have sameLine : '\n' ∉ (consFirst char parts).1 ↔ '\n' ∉ parts.1 := by
        simp [consFirst, Ne.symm other]
      have both := congrFun (addReturnsBoth_consFirst other) parts
      rw [Option.map_some, closing_some, closing_some]
      simp only [sameLine]
      split
      · exact congrArg some both
      · rfl

theorem closing_consFirst_feed (quote : Char) (found : Option (List Char × List Char)) :
    closing quote (found.map (consFirst '\n')) =
      if quote = '`' then ((closing quote found).map (consFirst '\n')).map (consFirst '\r')
      else none := by
  cases found with
  | none => simp [closing]
  | some parts =>
      rw [Option.map_some, closing_some, closing_some]
      by_cases isBacktick : quote = '`'
      · rw [if_pos (.inl isBacktick), if_pos isBacktick, if_pos (.inl isBacktick)]
        rfl
      · rw [if_neg (by simp [isBacktick, consFirst]), if_neg isBacktick]

theorem ne_feed (isQuote : isQuote quote) : quote ≠ '\n' := by
  rintro rfl
  cases isQuote

/-- A string literal ends at the same quote, unless it goes on in another line. -/
theorem throughQuote_addReturns (isQuote : isQuote quote) (text : List Char) :
    throughQuote quote (Text.addReturns text) = closing quote (throughQuote quote text) := by
  have noFeed : '\n' ≠ quote := Ne.symm (ne_feed isQuote)
  have noReturn : '\r' ≠ quote := by
    rintro rfl
    cases isQuote
  induction text using throughQuote.induct quote with
  | case1 => rfl
  | case2 => rfl
  | case3 escaped rest inductionHypothesis =>
      rw [throughQuote_escape, closing_consFirst (by decide), Text.addReturns_cons (by decide)]
      by_cases isFeed : escaped = '\n'
      · -- The backslash takes the carriage return, so the line feed stands alone.
        subst isFeed
        rw [Text.addReturns_feed, throughQuote_escape, throughQuote_cons (by decide),
          if_neg noFeed, closing_consFirst_feed, inductionHypothesis]
        by_cases isBacktick : quote = '`'
        · rw [if_pos isBacktick, if_neg (by simp [isBacktick])]
        · rw [if_neg isBacktick, if_pos ⟨rfl, isBacktick⟩]
          rfl
      · rw [Text.addReturns_cons isFeed, throughQuote_escape, closing_consFirst isFeed,
          inductionHypothesis]
  | case4 rest notLast notEscaping =>
      have unescaped := ne_backslash notLast notEscaping
      rw [Text.addReturns_cons (Ne.symm noFeed), throughQuote_cons unescaped, if_pos rfl,
        throughQuote_cons unescaped, if_pos rfl, closing_some,
        if_pos (.inr (by simpa using noFeed)), addReturnsBoth, Text.addReturns_cons (Ne.symm noFeed)]
      rfl
  | case5 char rest notLast notEscaping different ends =>
      obtain ⟨rfl, notBacktick⟩ := ends
      rw [Text.addReturns_feed, throughQuote_cons (by decide), if_neg noReturn,
        if_neg (by simp), throughQuote_cons (by decide), if_neg noFeed,
        if_pos ⟨rfl, notBacktick⟩, throughQuote_cons (by decide), if_neg noFeed,
        if_pos ⟨rfl, notBacktick⟩]
      rfl
  | case6 char rest notLast notEscaping different goesOn inductionHypothesis =>
      have unescaped := ne_backslash notLast notEscaping
      rw [throughQuote_cons unescaped, if_neg different, if_neg goesOn]
      by_cases isFeed : char = '\n'
      · subst isFeed
        have isBacktick : quote = '`' := by simpa using goesOn
        rw [Text.addReturns_feed, throughQuote_cons (by decide), if_neg noReturn,
          if_neg (by simp), throughQuote_cons (by decide), if_neg noFeed, if_neg goesOn,
          inductionHypothesis, closing_consFirst_feed, if_pos isBacktick]
      · rw [Text.addReturns_cons isFeed, throughQuote_cons unescaped, if_neg different,
          if_neg goesOn, inductionHypothesis, closing_consFirst isFeed]

/-- A line comment ends at the same line break. -/
theorem takeWhile_addReturns (text : List Char) :
    (Text.addReturns text).takeWhile inLine = Text.addReturns (text.takeWhile inLine) ∧
      (Text.addReturns text).dropWhile inLine = Text.addReturns (text.dropWhile inLine) := by
  induction text with
  | nil => exact ⟨rfl, rfl⟩
  | cons char rest inductionHypothesis =>
      by_cases isFeed : char = '\n'
      · subst isFeed
        exact ⟨rfl, rfl⟩
      · rw [Text.addReturns_cons isFeed]
        cases goesOn : inLine char with
        | true =>
            simp [goesOn, inductionHypothesis, Text.addReturns_cons isFeed]
        | false =>
            simp [goesOn, Text.addReturns_cons isFeed]

/-- What is found in a text with carriage returns instead. -/
def withReturns : Option Delimited → Except DelimitedError (Option Delimited)
  | none => .ok none
  | some delimited =>
      if delimited.IsContinued then .error .unterminatedString
      else .ok (some delimited.addReturns)

theorem withReturns_comment (text rest : List Char) :
    withReturns (some ⟨.comment, text, rest⟩) =
      .ok (some ⟨.comment, Text.addReturns text, Text.addReturns rest⟩) := by
  rw [withReturns, if_neg]
  · rfl
  · rintro ⟨⟨⟩, _⟩

theorem withReturns_string (isQuote : isQuote quote) (body rest : List Char) :
    withReturns (some ⟨.string, quote :: body, rest⟩) =
      if quote = '`' ∨ '\n' ∉ body then
        .ok (some ⟨.string, quote :: Text.addReturns body, Text.addReturns rest⟩)
      else .error .unterminatedString := by
  have continued_iff : IsContinued ⟨.string, quote :: body, rest⟩ ↔
      ¬(quote = '`' ∨ '\n' ∉ body) := by
    simp [IsContinued, Ne.symm (ne_feed isQuote)]
  rw [withReturns]
  by_cases closes : quote = '`' ∨ '\n' ∉ body
  · rw [if_pos closes, if_neg (mt continued_iff.mp (not_not.mpr closes)), addReturns,
      Text.addReturns_cons (ne_feed isQuote)]
  · rw [if_neg closes, if_pos (continued_iff.mpr closes)]

/-- Strings and comments are found where they were, but a quoted string must not go on in
another line. -/
theorem scan_addReturns (text : List Char) :
    scan (Text.addReturns text) = (scan text).bind withReturns := by
  fun_cases scan text with
  | case1 rest =>
      obtain ⟨take_eq, drop_eq⟩ := takeWhile_addReturns rest
      rw [Except.bind, withReturns_comment, Text.addReturns_cons (by decide),
        Text.addReturns_cons (by decide), scan, take_eq, drop_eq,
        Text.addReturns_cons (by decide), Text.addReturns_cons (by decide)]
  | case2 rest body after found =>
      rw [Except.bind, withReturns_comment, Text.addReturns_cons (by decide),
        Text.addReturns_cons (by decide), scan, throughEndMark_addReturns, found,
        Text.addReturns_cons (by decide), Text.addReturns_cons (by decide)]
      rfl
  | case3 rest missing =>
      rw [Text.addReturns_cons (by decide), Text.addReturns_cons (by decide), scan,
        throughEndMark_addReturns, missing]
      rfl
  | case4 => rfl
  | case5 quote rest notLine notBlock quotes body after found =>
      have newFound := throughQuote_addReturns quotes rest
      rw [found, closing_some] at newFound
      rw [Except.bind, withReturns_string quotes, Text.addReturns_cons (ne_feed quotes)]
      by_cases closes : quote = '`' ∨ '\n' ∉ body
      · rw [if_pos closes] at newFound
        rw [if_pos closes, scan_quote_of_some quotes newFound]
      · rw [if_neg closes] at newFound
        rw [if_neg closes, scan_quote_of_none quotes newFound]
  | case6 quote rest notLine notBlock quotes missing =>
      have newMissing := throughQuote_addReturns quotes rest
      rw [missing] at newMissing
      rw [Text.addReturns_cons (ne_feed quotes), scan_quote_of_none quotes newMissing]
      rfl
  | case7 first rest notLine notBlock notQuote =>
      by_cases isFeed : first = '\n'
      · subst isFeed
        rw [Text.addReturns_feed, scan_other (by decide) (by simp) (by simp)]
        rfl
      · rw [Text.addReturns_cons isFeed, scan_other notQuote]
        · rfl
        · intro later isSlash rest_eq
          obtain ⟨others, rest_eq⟩ := Text.eq_cons_of_addReturns_eq_cons (by decide) rest_eq
          exact notLine others isSlash rest_eq
        · intro later isSlash rest_eq
          obtain ⟨others, rest_eq⟩ := Text.eq_cons_of_addReturns_eq_cons (by decide) rest_eq
          exact notBlock others isSlash rest_eq

end Delimited

end Baseline
