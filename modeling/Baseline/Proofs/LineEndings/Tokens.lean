import Baseline.Proofs.LineEndings.Delimited
import Baseline.Proofs.LineEndings.Words

/-!
# Line endings and tokens

Two texts that differ only in their line endings, line feeds in one and carriage
returns with line feeds in the other, are both refused or read as the same
tokens up to the carriage returns, unless a quoted string goes on in another
line (`sameTokens_iff`).
-/

namespace Baseline

open Text (addReturns)

namespace Token

/-- A string literal outside backticks that goes on in another line.  Its line feeds stand
after backslashes. -/
def IsContinued (token : Token) : Prop :=
  token.kind = .string ∧ token.text.toList.head? ≠ some '`' ∧ '\n' ∈ token.text.toList

/-- The left and the right text are both refused or read as the same tokens, up to carriage
returns. -/
structure SameTokens (left right : Except ParseFailure (List Token)) : Prop where
  /-- One text is read if the other one is. -/
  succeeds_iff : (∃ tokens, left = .ok tokens) ↔ ∃ tokens, right = .ok tokens
  /-- The tokens have the same kinds. -/
  kinds_eq : ∀ leftTokens rightTokens, left = .ok leftTokens → right = .ok rightTokens →
    leftTokens.map Token.kind = rightTokens.map Token.kind
  /-- The tokens have the same texts without carriage returns. -/
  texts_eq : ∀ leftTokens rightTokens, left = .ok leftTokens → right = .ok rightTokens →
    leftTokens.map (fun token => Text.deleteReturns token.text.toList) =
      rightTokens.map fun token => Text.deleteReturns token.text.toList

variable
  {start other : Position}
  {text word : List Char}
  {tokens newTokens : List Token}
  {token : Token}
  {delimited : Delimited}
  {source : String}

/-! ## Continued strings among tokens -/

theorem isContinued_delimited_iff :
    IsContinued ⟨delimited.kind, String.ofList delimited.text, start⟩ ↔
      delimited.IsContinued := by
  simp only [IsContinued, Delimited.IsContinued, String.toList_ofList]

theorem classify_ne_string (segment : List Char) : classify segment ≠ .string := by
  unfold classify
  split_ifs <;> decide

/-- A part of a word is no string. -/
theorem kind_ne_string_of_mem_ofPieces
    {pieces : List (List Char)}
    (member : token ∈ ofPieces start pieces) :
    token.kind ≠ .string := by
  have ofPiece {piece : List Char} {place : Position}
      (member : token ∈ if piece.isEmpty then [] else [ofSegment place piece]) :
      token.kind ≠ .string := by
    split at member
    · cases member
    · rw [List.mem_singleton.mp member]
      exact classify_ne_string piece
  induction pieces generalizing start with
  | nil => cases member
  | cons piece later inductionHypothesis =>
      cases later with
      | nil => exact ofPiece member
      | cons next others =>
          rw [ofPieces_cons (List.cons_ne_nil next others), List.mem_append, List.mem_cons]
            at member
          rcases member with member | rfl | member
          · exact ofPiece member
          · simp
          · exact inductionHypothesis member

/-- A word is no string. -/
theorem kind_ne_string_of_mem_ofWord (member : token ∈ ofWord start word) :
    token.kind ≠ .string := by
  unfold ofWord at member
  split at member
  · exact kind_ne_string_of_mem_ofPieces member
  · rw [List.mem_singleton.mp member]
    exact classify_ne_string word

/-! ## Scanning -/

theorem not_mem_rest
    {char : Char}
    (scanned : Delimited.scan text = .ok (some delimited))
    (absent : char ∉ text) :
    char ∉ delimited.rest := fun member =>
  absent (Delimited.scan_append scanned ▸ List.mem_append_right _ member)

theorem ne_and_not_mem_afterWord
    {char first : Char}
    {rest : List Char}
    (absent : char ∉ first :: rest) :
    first ≠ char ∧ char ∉ afterWord first rest := by
  rw [List.mem_cons, not_or] at absent
  exact ⟨Ne.symm absent.1, fun member => absent.2 (List.mem_of_mem_drop member)⟩

theorem scan_addReturns_of_word
    {first head : Char}
    {rest tail : List Char}
    (scanned : Delimited.scan (first :: rest) = .ok none)
    (text_eq : addReturns (first :: rest) = head :: tail) :
    Delimited.scan (head :: tail) = .ok none := by
  rw [← text_eq, Delimited.scan_addReturns, scanned]
  rfl

theorem scan_addReturns_of_delimited (scanned : Delimited.scan text = .ok (some delimited)) :
    Delimited.scan (addReturns text) =
      if delimited.IsContinued then .error .unterminatedString
      else .ok (some delimited.addReturns) := by
  rw [Delimited.scan_addReturns, scanned]
  rfl

/-- A text without continued strings is read as the same tokens when it has carriage
returns. -/
theorem Scans.addReturns
    (scans : Scans start text tokens)
    (noReturn : '\r' ∉ text)
    (oneLine : ∀ token ∈ tokens, ¬token.IsContinued)
    (other : Position) :
    ∃ newTokens, Scans other (addReturns text) newTokens ∧
      List.Forall₂ Rewritten tokens newTokens := by
  induction scans generalizing other with
  | done => exact ⟨[], .done, .nil⟩
  | @delimited start text delimited tokens scanned _ inductionHypothesis =>
      rw [List.forall_mem_cons, isContinued_delimited_iff] at oneLine
      have restNoReturn := not_mem_rest scanned noReturn
      have newScanned := scan_addReturns_of_delimited scanned
      rw [if_neg oneLine.1] at newScanned
      obtain ⟨newTokens, newScans, rewritten⟩ := inductionHypothesis restNoReturn oneLine.2
        (other.advance delimited.addReturns.text)
      refine ⟨_, .delimited newScanned newScans, .cons ⟨rfl, ?_⟩ rewritten⟩
      simp only [Delimited.addReturns, String.toList_ofList]
  | @word start first rest tokens scanned _ inductionHypothesis =>
      rw [List.forall_mem_append] at oneLine
      obtain ⟨firstNoReturn, restNoReturn⟩ := ne_and_not_mem_afterWord noReturn
      obtain ⟨head, tail, text_eq, word_eq, after_eq⟩ := exists_word_addReturns firstNoReturn rest
      obtain ⟨newTokens, newScans, rewritten⟩ := inductionHypothesis restNoReturn oneLine.2
        (other.advance (wordFrom head tail))
      rw [text_eq]
      rw [← after_eq] at newScans
      refine ⟨_, .word (scan_addReturns_of_word scanned text_eq) newScans, ?_⟩
      rw [word_eq]
      exact List.rel_append (ofWord_addReturns firstNoReturn rest) rewritten

/-- A text that is read when it has carriage returns is read, and no string is continued. -/
theorem exists_scans_of_addReturns
    (noReturn : '\r' ∉ text)
    (read : scanFrom other (addReturns text) = .ok newTokens) :
    ∃ tokens, Scans start text tokens ∧ ∀ token ∈ tokens, ¬token.IsContinued := by
  induction start, text using scanFrom.induct generalizing other newTokens with
  | case1 start text error scanned =>
      have newScanned : Delimited.scan (addReturns text) = .error error := by
        rw [Delimited.scan_addReturns, scanned]
        rfl
      rw [scanFrom_of_error newScanned] at read
      cases read
  | case2 start text delimited scanned _ inductionHypothesis =>
      have newScanned := scan_addReturns_of_delimited scanned
      have restNoReturn := not_mem_rest scanned noReturn
      split at newScanned
      next continued =>
        rw [scanFrom_of_error newScanned] at read
        cases read
      next oneLine =>
        rw [scanFrom_of_delimited newScanned] at read
        obtain ⟨later, laterRead, _⟩ := Answer.map_eq_ok_iff.mp read
        obtain ⟨tokens, scans, laterOneLine⟩ := inductionHypothesis restNoReturn laterRead
        refine ⟨_, .delimited scanned scans, List.forall_mem_cons.mpr ⟨?_, laterOneLine⟩⟩
        rwa [isContinued_delimited_iff]
  | case3 start => exact ⟨[], .done, by simp⟩
  | case4 start first rest scanned =>
      rename_i inductionHypothesis
      obtain ⟨firstNoReturn, restNoReturn⟩ := ne_and_not_mem_afterWord noReturn
      obtain ⟨head, tail, text_eq, word_eq, after_eq⟩ := exists_word_addReturns firstNoReturn rest
      rw [text_eq, scanFrom_of_word (scan_addReturns_of_word scanned text_eq), after_eq] at read
      obtain ⟨later, laterRead, _⟩ := Answer.map_eq_ok_iff.mp read
      obtain ⟨tokens, scans, laterOneLine⟩ := inductionHypothesis restNoReturn laterRead
      refine ⟨_, .word scanned scans, List.forall_mem_append.mpr ⟨?_, laterOneLine⟩⟩
      exact fun token member continued => kind_ne_string_of_mem_ofWord member continued.1

/-! ## Whole sources -/

/-- A continued string is a token of its own, before operators are joined and after. -/
theorem forall_joinOperators_iff :
    (∀ token ∈ joinOperators tokens, ¬token.IsContinued) ↔
      ∀ token ∈ tokens, ¬token.IsContinued := by
  have mem_iff (token : Token) (continued : token.IsContinued) :
      token ∈ joinOperators tokens ↔ token ∈ tokens := by
    apply mem_joinOperators_iff
    rw [continued.1]
    decide
  constructor
  · exact fun oneLine token member continued =>
      oneLine token ((mem_iff token continued).mpr member) continued
  · exact fun oneLine token member continued =>
      oneLine token ((mem_iff token continued).mp member) continued

theorem tokenize_withReturns_of_oneLine
    (noReturn : '\r' ∉ source.toList)
    (tokenized : tokenize source = .ok tokens)
    (oneLine : ∀ token ∈ tokens, ¬token.IsContinued) :
    ∃ newTokens, tokenize (Text.withReturns source) = .ok newTokens ∧
      List.Forall₂ Rewritten tokens newTokens := by
  obtain ⟨pieces, scans, rfl⟩ := tokenize_eq_ok_iff.mp tokenized
  obtain ⟨newPieces, newScans, rewritten⟩ :=
    scans.addReturns noReturn (forall_joinOperators_iff.mp oneLine) .origin
  refine ⟨joinOperators newPieces, tokenize_eq_ok_iff.mpr ⟨newPieces, ?_, rfl⟩,
    joinOperators_rewritten rewritten⟩
  rwa [Text.withReturns, String.toList_ofList]

theorem exists_tokenize_of_withReturns
    (noReturn : '\r' ∉ source.toList)
    (tokenized : tokenize (Text.withReturns source) = .ok newTokens) :
    ∃ tokens, tokenize source = .ok tokens ∧ ∀ token ∈ tokens, ¬token.IsContinued := by
  obtain ⟨newPieces, newScans, _⟩ := tokenize_eq_ok_iff.mp tokenized
  rw [Text.withReturns, String.toList_ofList] at newScans
  obtain ⟨pieces, scans, oneLine⟩ := exists_scans_of_addReturns noReturn newScans.scanFrom_eq
  exact ⟨joinOperators pieces, tokenize_eq_ok_iff.mpr ⟨pieces, scans, rfl⟩,
    forall_joinOperators_iff.mpr oneLine⟩

/-- What carriage returns do not change is the same for tokens with and without them. -/
theorem map_eq_of_rewritten
    {β : Type}
    {read : Token → β}
    (rewritten : List.Forall₂ Rewritten tokens newTokens)
    (same : ∀ left right, Rewritten left right → read left = read right) :
    tokens.map read = newTokens.map read := by
  rw [← List.forall₂_eq_eq_eq, List.forall₂_map_left_iff, List.forall₂_map_right_iff]
  exact rewritten.imp same

/-- Line endings make no difference to tokens exactly if no quoted string goes on in another
line. -/
theorem sameTokens_iff (noReturn : '\r' ∉ source.toList) :
    SameTokens (tokenize source) (tokenize (Text.withReturns source)) ↔
      ∀ tokens, tokenize source = .ok tokens → ∀ token ∈ tokens, ¬token.IsContinued := by
  constructor
  · intro same tokens tokenized
    obtain ⟨newTokens, newTokenized⟩ := same.succeeds_iff.mp ⟨tokens, tokenized⟩
    obtain ⟨others, othersTokenized, oneLine⟩ :=
      exists_tokenize_of_withReturns noReturn newTokenized
    rw [tokenized, Except.ok.injEq] at othersTokenized
    exact othersTokenized ▸ oneLine
  · intro oneLine
    have rewritten (left right : List Token)
        (leftTokenized : tokenize source = .ok left)
        (rightTokenized : tokenize (Text.withReturns source) = .ok right) :
        List.Forall₂ Rewritten left right := by
      obtain ⟨newTokens, newTokenized, rewritten⟩ :=
        tokenize_withReturns_of_oneLine noReturn leftTokenized (oneLine left leftTokenized)
      rw [newTokenized, Except.ok.injEq] at rightTokenized
      exact rightTokenized ▸ rewritten
    refine ⟨⟨?_, ?_⟩, ?_, ?_⟩
    · rintro ⟨tokens, tokenized⟩
      obtain ⟨newTokens, newTokenized, _⟩ :=
        tokenize_withReturns_of_oneLine noReturn tokenized (oneLine tokens tokenized)
      exact ⟨newTokens, newTokenized⟩
    · rintro ⟨newTokens, newTokenized⟩
      obtain ⟨tokens, tokenized, _⟩ := exists_tokenize_of_withReturns noReturn newTokenized
      exact ⟨tokens, tokenized⟩
    · intro left right leftTokenized rightTokenized
      apply map_eq_of_rewritten (rewritten left right leftTokenized rightTokenized)
      exact fun _ _ rewritten => rewritten.kind_eq.symm
    · intro left right leftTokenized rightTokenized
      apply map_eq_of_rewritten (rewritten left right leftTokenized rightTokenized)
      intro left right rewritten
      rw [rewritten.text_eq, Text.deleteReturns_addReturns]

/-- A string in backticks may go on in another line with either line ending. -/
theorem sameTokens_of_backticks :
    let source := "é\n`\n`"
    let tokens : List Token :=
      [⟨.word, "é", ⟨0, 1, 1⟩⟩, ⟨.newline, "\n", ⟨2, 1, 2⟩⟩, ⟨.string, "`\n`", ⟨3, 2, 1⟩⟩]
    '\r' ∉ source.toList ∧
      tokenize source = .ok tokens ∧
        SameTokens (tokenize source) (tokenize (Text.withReturns source)) := by
  intro source tokens
  have noReturn : '\r' ∉ source.toList := by decide
  have tokenized : tokenize source = .ok tokens := by decide +kernel
  refine ⟨noReturn, tokenized, (sameTokens_iff noReturn).mpr ?_⟩
  intro others othersTokenized
  rw [tokenized, Except.ok.injEq] at othersTokenized
  subst othersTokenized
  simp [tokens, IsContinued]

/-- A quoted string with an escaped line feed is read, but with a carriage return before the
line feed it is refused. -/
theorem tokens_differ_of_escapedFeed :
    let source := "\"\\\n\""
    '\r' ∉ source.toList ∧
      tokenize source = .ok [⟨.string, source, .origin⟩] ∧
        tokenize (Text.withReturns source) =
            .error ⟨"unterminated string literal", some .origin⟩ ∧
          ¬SameTokens (tokenize source) (tokenize (Text.withReturns source)) := by
  intro source
  have tokenized : tokenize source = .ok [⟨.string, source, .origin⟩] := by decide +kernel
  have refused : tokenize (Text.withReturns source) =
      .error ⟨"unterminated string literal", some .origin⟩ := by
    decide +kernel
  refine ⟨by decide, tokenized, refused, fun same => ?_⟩
  obtain ⟨tokens, read⟩ := same.succeeds_iff.mp ⟨_, tokenized⟩
  rw [refused] at read
  cases read

end Token
end Baseline
