import Baseline.Proofs.Bytewise.Tokens
import Baseline.Proofs.Token.Joining

/-!
# Joining by byte offsets

At default word boundaries the part of a word between its dots makes no operator
with the punctuation before it.  So joining tokens as their parts are read gives
what joining them in the end gives, and the tokens by offsets are those of
`tokenize` (`tokenize_eq`).
-/

namespace Baseline
namespace Bytewise

/-- A token with its byte offsets. -/
def Piece.ofToken (token : Token) : Piece :=
  ⟨token.kind, token.text, token.start.offset, token.stop⟩

variable
  {before text : List Char}
  {tokens : List Token}
  {token : Token}
  {start : Position}

/-! ## Adding tokens by offsets -/

@[simp] theorem Piece.ofToken_kind (token : Token) : (ofToken token).kind = token.kind := rfl

@[simp] theorem Piece.ofToken_text (token : Token) : (ofToken token).text = token.text := rfl

@[simp] theorem Piece.ofToken_start (token : Token) :
    (ofToken token).start = token.start.offset := rfl

@[simp] theorem Piece.ofToken_stop (token : Token) : (ofToken token).stop = token.stop := rfl

theorem pushPunct_eq
    (token : Token)
    (stops : Token.StopsAt tokens token.start.offset)
    (punct : token.kind = .punct) :
    pushPunct (tokens.map Piece.ofToken) token.text token.start.offset =
      (Token.append tokens token).map Piece.ofToken := by
  have alone : Piece.at .punct token.text token.start.offset = Piece.ofToken token := by
    rw [Piece.ofToken, punct]
    rfl
  cases tokens with
  | nil =>
      rw [List.map_nil, pushPunct, alone]
      rfl
  | cons last earlier =>
      have touching : (Piece.ofToken last).stop = token.start.offset := stops last rfl
      rw [List.map_cons, pushPunct, Token.append, Token.join?, alone]
      by_cases joins : last.kind = .punct ∧ Token.isOperator (last.text ++ token.text)
      · have stop_eq : token.start.offset + token.text.utf8ByteSize =
            last.start.offset + (last.text ++ token.text).utf8ByteSize := by
          rw [← touching, String.utf8ByteSize_append, ← Nat.add_assoc]
          rfl
        rw [if_pos ⟨joins.1, touching, joins.2⟩, if_pos ⟨joins.1, punct, joins.2⟩, stop_eq]
        rfl
      · rw [if_neg fun both => joins ⟨both.1, both.2.2⟩,
          if_neg fun both => joins ⟨both.1, both.2.2⟩]
        rfl

/-- A part that makes no operator with the last token follows it. -/
theorem pushPart_eq
    {part : List Char}
    (apart : ∀ last ∈ tokens.head?, part ≠ [] →
      ¬Token.isOperator (last.text ++ String.ofList part)) :
    pushPart (tokens.map Piece.ofToken) part start.offset =
      ((if part.isEmpty then [] else [Token.ofSegment start part]).foldl Token.append
        tokens).map Piece.ofToken := by
  cases part with
  | nil => rfl
  | cons char rest =>
      have added : Token.append tokens (.ofSegment start (char :: rest)) =
          .ofSegment start (char :: rest) :: tokens :=
        Token.append_of_apart fun last isLast _ => apart last isLast (by simp)
      rw [pushPart, if_neg (by simp), if_neg (by simp), List.foldl_cons, List.foldl_nil, added]
      rfl

/-- The parts after a dot are added by themselves, the dots before them as punctuation. -/
theorem pushParts_eq
    {parts : List (List Char)}
    (stops : Token.StopsAt tokens start.offset)
    (dotless : ∀ part ∈ parts, '.' ∉ part)
    (parts_ne : parts ≠ []) :
    pushParts (tokens.map Piece.ofToken) start.offset true parts =
      ((⟨.punct, ".", start⟩ :: Token.ofPieces (start.next '.') parts).foldl Token.append
        tokens).map Piece.ofToken := by
  induction parts generalizing tokens start with
  | nil => exact absurd rfl parts_ne
  | cons part later inductionHypothesis =>
      let dot : Token := ⟨.punct, ".", start⟩
      have withDot : pushPunct (tokens.map Piece.ofToken) "." start.offset =
          (Token.append tokens dot).map Piece.ofToken :=
        pushPunct_eq dot stops rfl
      have dotStops : Token.StopsAt (Token.append tokens dot) (start.next '.').offset :=
        Token.StopsAt.append stops
      have apart : ∀ last ∈ (Token.append tokens dot).head?, part ≠ [] →
          ¬Token.isOperator (last.text ++ String.ofList part) := by
        intro last isLast part_ne
        obtain ⟨front, last_eq⟩ := Token.exists_dot_of_append rfl isLast
        obtain ⟨char, rest, rfl⟩ := List.exists_cons_of_ne_nil part_ne
        refine Token.not_isOperator_of_dot last_eq String.toList_ofList fun isDot => ?_
        exact dotless _ List.mem_cons_self (isDot ▸ List.mem_cons_self)
      have stop_eq : (start.next '.').offset + String.utf8Len part =
          ((start.next '.').advance part).offset :=
        (Position.offset_advance _ _).symm
      have dot_eq : start.offset + 1 = (start.next '.').offset := rfl
      rw [pushParts, if_pos rfl, if_pos rfl, withDot, dot_eq, pushPart_eq apart, stop_eq,
        List.foldl_cons]
      cases later with
      | nil => rfl
      | cons next others =>
          rw [inductionHypothesis (dotStops.piece part)
              (fun part member => dotless part (List.mem_cons_of_mem _ member)) (by simp),
            ← List.foldl_append, ← Token.ofPieces_cons (by simp)]

/-- A word adds its tokens. -/
theorem pushWord_eq
    {first : Char}
    {rest : List Char}
    (stops : Token.StopsAt tokens start.offset) :
    pushWord (tokens.map Piece.ofToken) (Token.wordFrom first rest) start.offset =
      ((Token.ofWord start (Token.wordFrom first rest)).foldl Token.append tokens).map
        Piece.ofToken := by
  unfold pushWord Token.ofWord
  split
  next punct =>
    rw [if_neg fun dotted => by simp [punct] at dotted]
    exact pushPunct_eq (.ofSegment start (Token.wordFrom first rest)) stops punct
  next notPunct =>
    split
    next dotted =>
      obtain ⟨part, later, parts_eq⟩ := List.exists_cons_of_ne_nil
        (Text.pieces_ne_nil '.' (Token.wordFrom first rest))
      have apart : ∀ last ∈ tokens.head?, part ≠ [] →
          ¬Token.isOperator (last.text ++ String.ofList part) := fun last _ part_ne =>
        Token.not_isOperator_of_pieces (List.contains_iff_mem.mp dotted.2) parts_eq part_ne last.text
      have dotless : ∀ part ∈ later, '.' ∉ part := fun part member =>
        Text.not_mem_of_mem_pieces (parts_eq ▸ List.mem_cons_of_mem _ member)
      rw [parts_eq, pushParts, if_neg Bool.false_ne_true, if_neg Bool.false_ne_true,
        pushPart_eq apart, ← Position.offset_advance]
      cases later with
      | nil => rfl
      | cons next others =>
          rw [pushParts_eq (stops.piece part) dotless (by simp), ← List.foldl_append,
            ← Token.ofPieces_cons (by simp)]
    next undotted =>
      have added : Token.append tokens (.ofSegment start (Token.wordFrom first rest)) =
          .ofSegment start (Token.wordFrom first rest) :: tokens :=
        Token.append_of_apart fun _ _ punct => absurd punct notPunct
      rw [List.foldl_cons, List.foldl_nil, added]
      rfl

/-! ## Reading by offsets -/

/-- The tokens read so far and those of a scan of what is left, if the scan succeeds. -/
def complete (tokens : List Token) (scanned : Except ParseFailure (List Token)) :
    Except Halt (List Piece) :=
  (scanned.map fun later => (later.foldl Token.append tokens).map Piece.ofToken).mapError .refused

/-- Tokens that come before those of a scan are added first. -/
theorem complete_map (new : List Token) (scanned : Except ParseFailure (List Token)) :
    complete tokens (scanned.map (new ++ ·)) = complete (new.foldl Token.append tokens) scanned := by
  cases scanned with
  | error failure => rfl
  | ok later =>
      simp only [complete, Except.map, List.foldl_append]

theorem complete_of_word
    {first : Char}
    {rest : List Char}
    (scanned : Delimited.scan (first :: rest) = .ok none) :
    complete tokens (Token.scanFrom start (first :: rest)) =
      complete ((Token.ofWord start (Token.wordFrom first rest)).foldl Token.append tokens)
        (Token.scanFrom (start.advance (Token.wordFrom first rest))
          (Token.afterWord first rest)) := by
  rw [Token.scanFrom_of_word scanned]
  exact complete_map _ _

theorem complete_of_delimited
    {delimited : Delimited}
    (scanned : Delimited.scan text = .ok (some delimited)) :
    complete tokens (Token.scanFrom start text) =
      complete (⟨delimited.kind, String.ofList delimited.text, start⟩ :: tokens)
        (Token.scanFrom (start.advance delimited.text) delimited.rest) := by
  rw [Token.scanFrom_of_delimited scanned, ← Token.append_of_delimited scanned]
  exact complete_map [_] _

/-- A string or a comment as a token, by offsets. -/
theorem Piece.of_delimited
    (start_eq : start = Position.origin.advance before)
    (delimited : Delimited) :
    Piece.at delimited.kind (String.ofList delimited.text) (String.utf8Len before) =
      ofToken ⟨delimited.kind, String.ofList delimited.text, start⟩ := by
  rw [start_eq, ← Position.offset_origin_advance]
  rfl

/-- Reading by offsets adds the tokens of a scan to those read so far. -/
theorem Reading.eq_complete
    {answer : Except Halt (List Piece)}
    (reading : Reading (tokens.map Piece.ofToken) before text answer)
    (start_eq : start = Position.origin.advance before)
    (stops : Token.StopsAt tokens start.offset) :
    answer = complete tokens (Token.scanFrom start text) := by
  -- Punctuation may be joined with the last token only because that token always stops where
  -- the next one starts.
  generalize pieces_eq : tokens.map Piece.ofToken = pieces at reading
  induction reading generalizing tokens start with
  | done =>
      rw [Token.scanFrom_nil, ← pieces_eq]
      rfl
  | refused scanned =>
      rw [Token.scanFrom_of_error scanned, start_eq]
      rfl
  | @delimited _ _ _ delimited _ scanned _ inductionHypothesis =>
      rw [complete_of_delimited scanned]
      refine inductionHypothesis ?_ (Token.stopsAt_delimited delimited) ?_
      · rw [Position.advance_append, start_eq]
      · rw [List.map_cons, Piece.of_delimited start_eq, pieces_eq]
  | @word _ _ first rest _ scanned _ inductionHypothesis =>
      rw [complete_of_word scanned]
      refine inductionHypothesis ?_ (stops.ofWord first rest) ?_
      · rw [Position.advance_append, start_eq]
      · rw [← pushWord_eq stops, pieces_eq, start_eq, Position.offset_origin_advance]

/-- The tokens found by offsets are the tokens of the source. -/
theorem tokenize_eq (source : String) :
    tokenize (.ofText source) source =
      ((Baseline.tokenize source).map (·.map Piece.ofToken)).mapError .refused := by
  obtain ⟨answer, reading, read⟩ := exists_reading source
  have noneStops : Token.StopsAt [] Position.origin.offset := by
    simp [Token.StopsAt]
  have answer_eq : answer = complete [] (Token.scanFrom .origin source.toList) :=
    Reading.eq_complete (by rwa [List.map_nil]) rfl noneStops
  rw [read, answer_eq, Baseline.tokenize]
  cases Token.scanFrom .origin source.toList with
  | error failure => rfl
  | ok tokens =>
      have reversed : (List.map Piece.ofToken (tokens.foldl Token.append [])).reverse =
          (Token.joinOperators tokens).map Piece.ofToken := by
        rw [Token.joinOperators_eq, List.map_reverse]
      exact congrArg Except.ok reversed

theorem tokenize_of_tokens
    {source : String}
    (tokenized : Baseline.tokenize source = .ok tokens) :
    tokenize (.ofText source) source = .ok (tokens.map Piece.ofToken) := by
  rw [tokenize_eq, tokenized]
  rfl

/-- The string after a character of two bytes has no end. -/
example : tokenize (.ofText "é \"") "é \"" =
    .error (.refused ⟨"unterminated string literal", some ⟨3, 1, 3⟩⟩) := by
  decide +kernel

end Bytewise
end Baseline
