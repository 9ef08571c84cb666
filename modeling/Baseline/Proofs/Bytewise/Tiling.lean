import Baseline.Proofs.Bytewise.Joining

/-!
# Tokens by offsets tile their text

At whatever places the words are cut, each token that is added starts where the
one before it stops (`Covers`).  So a reading by offsets either ends in tokens
that tile the source or meets a string or a comment that has no end
(`tokenize_answers`).
-/

namespace Baseline

namespace Token

/-- The tokens, last first, make up the text, and each starts where the one before it
stops. -/
inductive Covers : List Char → List Token → Prop
  /-- No token, no text. -/
  | nil : Covers [] []
  /-- One more token after the others. -/
  | cons {before text tokens}
      (covers : Covers before tokens)
      (text_ne : text ≠ [])
      (kind : TokenKind) :
      Covers (before ++ text) (⟨kind, String.ofList text, .advance .origin before⟩ :: tokens)

namespace Covers

variable
  {before text : List Char}
  {tokens : List Token}

/-- The last token stops where the text does. -/
theorem stopsAt (covers : Covers before tokens) :
    StopsAt tokens (Position.origin.advance before).offset := by
  cases covers with
  | nil => simp [StopsAt]
  | cons covers text_ne =>
      intro last isLast
      cases isLast
      rw [stop_eq, String.toList_ofList, Position.advance_append]

/-- A token that is joined with the last one makes up the text of both. -/
theorem append
    (covers : Covers before tokens)
    (text_ne : text ≠ [])
    (kind : TokenKind) :
    Covers (before ++ text)
      (Token.append tokens ⟨kind, String.ofList text, .advance .origin before⟩) := by
  cases tokens with
  | nil => exact covers.cons text_ne kind
  | cons last earlier =>
      rw [Token.append]
      split
      next joined joins =>
        obtain ⟨_, _, _, rfl⟩ := join?_eq_some_iff.mp joins
        cases covers with
        | cons earlierCovers lastText_ne =>
            rw [List.append_assoc, ← String.ofList_append]
            exact earlierCovers.cons (List.append_ne_nil_of_left_ne_nil lastText_ne _) _
      next => exact covers.cons text_ne kind

theorem tiles_append (covers : Covers before tokens) (after : List Char) :
    Tiles (fun _ _ => True) .origin (before ++ after) tokens.reverse after := by
  -- Without its last token, what comes after the others starts with the text of that token.
  induction covers generalizing after with
  | nil => exact .nil
  | @cons before text tokens _ text_ne kind inductionHypothesis =>
      have earlier := inductionHypothesis (text ++ after)
      have before_eq : before = textOf tokens.reverse := List.append_cancel_right earlier.text_eq
      rw [List.append_assoc, List.reverse_cons]
      refine earlier.append (.cons ?_ ?_ ?_ trivial .nil)
      · rw [← before_eq]
      · simpa using text_ne
      · rw [String.toList_ofList]

/-- Tokens that make up a source tile it. -/
theorem tiles (covers : Covers before tokens) :
    Tiles (fun _ _ => True) .origin before tokens.reverse [] := by
  have tiles := covers.tiles_append []
  rwa [List.append_nil] at tiles

end Covers
end Token

namespace Bytewise

open Token (Covers)

/-- These tokens by offsets, last first, make up the text. -/
def IsRead (text : List Char) (pieces : List Piece) : Prop :=
  ∃ tokens, pieces = tokens.map Piece.ofToken ∧ Covers text tokens

variable
  {source : String}
  {before text : List Char}
  {pieces : List Piece}

namespace IsRead

/-- A token of its own. -/
theorem cons (isRead : IsRead before pieces) (text_ne : text ≠ []) (kind : TokenKind) :
    IsRead (before ++ text)
      (.at kind (String.ofList text) (String.utf8Len before) :: pieces) := by
  obtain ⟨tokens, rfl, covers⟩ := isRead
  refine ⟨_, ?_, covers.cons text_ne kind⟩
  rw [List.map_cons, Piece.ofToken, ← Position.offset_origin_advance]
  rfl

/-- Punctuation that may be joined. -/
theorem pushPunct (isRead : IsRead before pieces) (text_ne : text ≠ []) :
    IsRead (before ++ text)
      (pushPunct pieces (String.ofList text) (String.utf8Len before)) := by
  obtain ⟨tokens, rfl, covers⟩ := isRead
  let punct : Token := ⟨.punct, String.ofList text, .advance .origin before⟩
  refine ⟨Token.append tokens punct, ?_, covers.append text_ne .punct⟩
  rw [← Position.offset_origin_advance]
  exact pushPunct_eq punct covers.stopsAt rfl

theorem pushPart (isRead : IsRead before pieces) (part : List Char) :
    IsRead (before ++ part) (pushPart pieces part (String.utf8Len before)) := by
  cases part with
  | nil => rwa [List.append_nil]
  | cons first rest => exact isRead.cons (List.cons_ne_nil first rest) _

/-- Parts with a dot before each. -/
theorem pushParts (isRead : IsRead before pieces) (parts : List (List Char)) :
    IsRead (before ++ parts.flatMap ('.' :: ·))
      (pushParts pieces (String.utf8Len before) true parts) := by
  induction parts generalizing before pieces with
  | nil => rwa [List.flatMap_nil, List.append_nil]
  | cons part later inductionHypothesis =>
      have dotted : IsRead (before ++ ['.'])
          (Bytewise.pushPunct pieces "." (String.utf8Len before)) :=
        isRead.pushPunct (List.cons_ne_nil '.' [])
      have start_eq : String.utf8Len before + 1 = String.utf8Len (before ++ ['.']) := by
        rw [String.utf8Len_append]
        rfl
      rw [Bytewise.pushParts, if_pos rfl, if_pos rfl, start_eq, ← String.utf8Len_append]
      have read := inductionHypothesis (dotted.pushPart part)
      simpa only [List.flatMap_cons, List.append_assoc, List.cons_append, List.nil_append]
        using read

/-- The tokens of a word make it up. -/
theorem pushWord (isRead : IsRead before pieces) {word : List Char} (word_ne : word ≠ []) :
    IsRead (before ++ word) (pushWord pieces word (String.utf8Len before)) := by
  unfold Bytewise.pushWord
  split
  next => exact isRead.pushPunct word_ne
  next =>
    split
    next =>
      obtain ⟨part, later, parts_eq⟩ :=
        List.exists_cons_of_ne_nil (Text.pieces_ne_nil '.' word)
      have word_eq : word = part ++ later.flatMap ('.' :: ·) := by
        rw [← Text.intercalate_pieces '.' word, parts_eq, Text.intercalate_cons]
      rw [parts_eq, Bytewise.pushParts, if_neg Bool.false_ne_true, if_neg Bool.false_ne_true,
        ← String.utf8Len_append, word_eq, ← List.append_assoc]
      exact (isRead.pushPart part).pushParts later
    next => exact isRead.cons word_ne _

end IsRead

variable [Unicode.Segmentation]

/-- A reading makes up the text with tokens, unless it meets a string or a comment that has no
end. -/
theorem Reading.answers
    {answer : Except Halt (List Piece)}
    (reading : Reading pieces before text answer)
    (isRead : IsRead before pieces) :
    (∃ read, answer = .ok read ∧ IsRead (before ++ text) read) ∨
      ∃ left rest error, before ++ text = left ++ rest ∧ Delimited.scan rest = .error error ∧
        answer = refuse error.message (Position.origin.advance left) := by
  induction reading with
  | @done pieces before => exact .inl ⟨pieces, rfl, by rwa [List.append_nil]⟩
  | @refused _ before text error scanned => exact .inr ⟨before, text, error, rfl, scanned, rfl⟩
  | delimited scanned _ inductionHypothesis =>
      rw [List.append_assoc, Delimited.scan_append scanned] at inductionHypothesis
      exact inductionHypothesis (isRead.cons (Delimited.text_ne_nil scanned) _)
  | @word _ _ first rest _ scanned _ inductionHypothesis =>
      rw [List.append_assoc, Token.wordFrom_append_afterWord] at inductionHypothesis
      exact inductionHypothesis (isRead.pushWord (Token.wordFrom_ne_nil first rest))

/-- A source is read as tokens that tile it, or refused where a string or a comment starts that
has no end. -/
theorem tokenize_answers (source : String) :
    (∃ tokens, tokenize (.ofText source) source = .ok (tokens.map Piece.ofToken) ∧
      Token.Tiles (fun _ _ => True) .origin source.toList tokens []) ∨
      ∃ before rest error, source.toList = before ++ rest ∧
        Delimited.scan rest = .error error ∧
          tokenize (.ofText source) source =
            refuse error.message (Position.origin.advance before) := by
  obtain ⟨answer, reading, read_eq⟩ := exists_reading source
  have nothing : IsRead [] [] := ⟨[], rfl, .nil⟩
  rw [read_eq]
  rcases reading.answers nothing with
    ⟨_, rfl, tokens, rfl, covers⟩ | ⟨before, rest, error, source_eq, scanned, rfl⟩
  · refine .inl ⟨tokens.reverse, ?_, covers.tiles⟩
    rw [Except.map, List.map_reverse]
  · exact .inr ⟨before, rest, error, source_eq, scanned, rfl⟩

end Bytewise

namespace Token

/-- The tokens of a text are its parts one after the other, at whatever places the words are
cut.  So are the tokens that are found by adding up offsets, and at default word boundaries
they are the same. -/
theorem tokenize_isTiling (source : String) :
    (∀ [Unicode.Segmentation] (tokens : List Token),
      tokenize source = .ok tokens → IsTiling source tokens) ∧
      (∀ [Unicode.Segmentation] (pieces : List Bytewise.Piece),
        Bytewise.tokenize (.ofText source) source = .ok pieces →
          ∃ tokens, pieces = tokens.map Bytewise.Piece.ofToken ∧ IsTiling source tokens) ∧
        ∀ tokens, tokenize source = .ok tokens →
          Bytewise.tokenize (.ofText source) source =
            .ok (tokens.map Bytewise.Piece.ofToken) := by
  refine ⟨?_, ?_, ?_⟩
  · intro _ tokens tokenized
    exact (isLexical_true.tiles tokenized).isTiling
  · intro _ pieces tokenized
    rcases Bytewise.tokenize_answers source with
      ⟨tokens, read_eq, tiles⟩ | ⟨before, rest, error, _, _, refused⟩
    · rw [read_eq, Except.ok.injEq] at tokenized
      exact ⟨tokens, tokenized.symm, tiles.isTiling⟩
    · rw [refused] at tokenized
      cases tokenized
  · exact fun tokens => Bytewise.tokenize_of_tokens

/-- Words cut at a dot, a joined operator, a string and a comment, some of them with
characters of two bytes, tile their text. -/
theorem tokenize_accents_isTiling :
    let source := "é.x===\"ö\"//ü"
    let tokens : List Token :=
      [⟨.word, "é", ⟨0, 1, 1⟩⟩, ⟨.punct, ".", ⟨2, 1, 2⟩⟩, ⟨.word, "x", ⟨3, 1, 3⟩⟩,
       ⟨.punct, "===", ⟨4, 1, 4⟩⟩, ⟨.string, "\"ö\"", ⟨7, 1, 7⟩⟩, ⟨.comment, "//ü", ⟨11, 1, 10⟩⟩]
    let pieces := tokens.map Bytewise.Piece.ofToken
    tokenize source = .ok tokens ∧
      Bytewise.tokenize (.ofText source) source = .ok pieces ∧
        IsTiling source tokens ∧
          ∃ others, pieces = others.map Bytewise.Piece.ofToken ∧ IsTiling source others := by
  intro source tokens pieces
  have tokenized : tokenize source = .ok tokens := by decide +kernel
  obtain ⟨isTiling, tiled, same⟩ := tokenize_isTiling source
  have read : Bytewise.tokenize (.ofText source) source = .ok pieces := same tokens tokenized
  exact ⟨tokenized, read, isTiling tokens tokenized, tiled pieces read⟩

end Token
end Baseline
