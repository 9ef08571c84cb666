import Baseline.Proofs.Token.Scanning
import Baseline.Proofs.Token.Tiling
import Baseline.Proofs.Unicode.WordTail

/-!
# Joining while reading

Operators can also be joined while the tokens are read: each token is joined
with the last one before it or follows it (`joinOperators_eq`).  Pieces of words
that are cut at dots never take part in that (`not_isOperator_of_pieces`).
-/

namespace Baseline

open Unicode (WordBreak WordState)

namespace Token

/-- One more token after tokens that come last first, joined with the last one if both make
an operator. -/
def append (tokens : List Token) (token : Token) : List Token :=
  match tokens with
  | [] => [token]
  | last :: earlier =>
      match last.join? token with
      | some joined => joined :: earlier
      | none => token :: last :: earlier

/-- The last token, if there is one, stops at the offset. -/
def StopsAt (tokens : List Token) (offset : Nat) : Prop :=
  ∀ last ∈ tokens.head?, last.stop = offset

variable
  {Fits : Token → List Char → Prop}
  {start : Position}
  {tokens : List Token}
  {token last : Token}
  {text after : List Char}

theorem joinOperatorsFrom_eq (earlier : List Token) (last : Token) (tokens : List Token) :
    earlier.reverse ++ joinOperatorsFrom last tokens =
      (tokens.foldl append (last :: earlier)).reverse := by
  induction tokens generalizing earlier last with
  | nil => simp
  | cons token tokens inductionHypothesis =>
      rw [joinOperatorsFrom, List.foldl_cons, append]
      cases joined : last.join? token with
      | some both => exact inductionHypothesis earlier both
      | none =>
          have later := inductionHypothesis (last :: earlier) token
          rwa [List.reverse_cons, List.append_assoc] at later

/-- Operators are joined from the left, so they can be joined as the tokens come. -/
theorem joinOperators_eq (tokens : List Token) :
    joinOperators tokens = (tokens.foldl append []).reverse := by
  cases tokens with
  | nil => rfl
  | cons first rest => exact joinOperatorsFrom_eq [] first rest

/-- A token that makes no operator with the last one follows it. -/
theorem append_of_apart
    (apart : ∀ last ∈ tokens.head?, token.kind = .punct → ¬isOperator (last.text ++ token.text)) :
    append tokens token = token :: tokens := by
  cases tokens with
  | nil => rfl
  | cons last earlier =>
      rw [append, join?, if_neg fun both => apart last rfl both.2.1 both.2.2]

/-- Strings and comments are joined with nothing. -/
theorem append_of_delimited
    {delimited : Delimited}
    (scanned : Delimited.scan text = .ok (some delimited)) :
    append tokens ⟨delimited.kind, String.ofList delimited.text, start⟩ =
      ⟨delimited.kind, String.ofList delimited.text, start⟩ :: tokens := by
  refine append_of_apart fun _ _ punct => ?_
  rcases Delimited.kind_of_scan scanned with isString | isComment
  · cases isString.symm.trans punct
  · cases isComment.symm.trans punct

/-- A joined token stops where the second part stops. -/
theorem StopsAt.append (stops : StopsAt tokens token.start.offset) :
    StopsAt (append tokens token) token.stop := by
  cases tokens with
  | nil => simp [StopsAt, Token.append]
  | cons last earlier =>
      rw [Token.append]
      cases joined : last.join? token with
      | none => simp [StopsAt]
      | some both =>
          have touching : last.stop = token.start.offset := stops last rfl
          obtain ⟨_, _, _, rfl⟩ := join?_eq_some_iff.mp joined
          simp only [StopsAt, List.head?_cons, Option.mem_def, Option.some.injEq, forall_eq',
            stop, String.utf8ByteSize_append] at touching ⊢
          omega

/-- After tokens that tile a text, the last one stops where the text does. -/
theorem StopsAt.foldl
    (stops : StopsAt tokens start.offset)
    {later : List Token}
    (tiles : Tiles Fits start text later after) :
    StopsAt (later.foldl Token.append tokens) (start.advance (textOf later)).offset := by
  induction tiles generalizing tokens with
  | nil => exact stops
  | cons start_eq _ _ _ _ inductionHypothesis =>
      rw [textOf_cons, Position.advance_append]
      apply inductionHypothesis
      rw [← start_eq, ← stop_eq]
      exact StopsAt.append (start_eq ▸ stops)

/-- After a string or a comment, the last token stops where it does. -/
theorem stopsAt_delimited (delimited : Delimited) :
    StopsAt (⟨delimited.kind, String.ofList delimited.text, start⟩ :: tokens)
      (start.advance delimited.text).offset := by
  intro last isLast
  cases isLast
  rw [stop_eq, String.toList_ofList]

/-- After a word, the last token stops where the word does. -/
theorem StopsAt.ofWord
    (stops : StopsAt tokens start.offset)
    (first : Char)
    (rest : List Char) :
    StopsAt ((Token.ofWord start (wordFrom first rest)).foldl Token.append tokens)
      (start.advance (wordFrom first rest)).offset := by
  have tiles : Tiles (fun _ _ => True) start (wordFrom first rest ++ [])
      (Token.ofWord start (wordFrom first rest)) [] :=
    ofWord_tiles (wordFrom_ne_nil first rest) fun _ _ _ => trivial
  have reached := stops.foldl tiles
  rwa [textOf_ofWord (wordFrom_ne_nil first rest)] at reached

/-! ## Pieces of words -/

theorem ofPieces_cons {piece : List Char} {pieces : List (List Char)} (pieces_ne : pieces ≠ []) :
    ofPieces start (piece :: pieces) =
      (if piece.isEmpty then [] else [ofSegment start piece]) ++
        ⟨.punct, ".", start.advance piece⟩ ::
          ofPieces ((start.advance piece).next '.') pieces := by
  rw [ofPieces]
  exact pieces_ne

/-- After a piece of a word, the last token stops where the piece does. -/
theorem StopsAt.piece (stops : StopsAt tokens start.offset) (piece : List Char) :
    StopsAt
      ((if piece.isEmpty then [] else [ofSegment start piece]).foldl Token.append tokens)
      (start.advance piece).offset := by
  cases piece with
  | nil => exact stops
  | cons char rest =>
      have added : StopsAt (Token.append tokens (ofSegment start (char :: rest)))
          (ofSegment start (char :: rest)).stop :=
        StopsAt.append stops
      rwa [stop_eq, ofSegment, String.toList_ofList] at added

/-- After a dot the last token ends with it. -/
theorem exists_dot_of_append
    (isDot : token.text = ".")
    (isLast : last ∈ (append tokens token).head?) :
    ∃ front, last.text.toList = front ++ ['.'] := by
  have alone : token.text.toList = [] ++ ['.'] := by
    rw [isDot]
    rfl
  cases tokens with
  | nil =>
      cases isLast
      exact ⟨[], alone⟩
  | cons earlier tokens =>
      rw [append] at isLast
      cases joined : earlier.join? token with
      | none =>
          rw [joined] at isLast
          cases isLast
          exact ⟨[], alone⟩
      | some both =>
          rw [joined] at isLast
          cases isLast
          obtain ⟨_, _, _, rfl⟩ := join?_eq_some_iff.mp joined
          refine ⟨earlier.text.toList, ?_⟩
          rw [String.toList_append, alone, List.nil_append]

/-- In an operator only dots follow dots. -/
theorem not_isOperator_of_dot
    {left right : String}
    {front back : List Char}
    {char : Char}
    (left_eq : left.toList = front ++ ['.'])
    (right_eq : right.toList = char :: back)
    (noDot : char ≠ '.') :
    ¬isOperator (left ++ right) := by
  have dotsFollow : ∀ operator ∈ operators,
      operator.toList.IsChain fun earlier later => earlier = '.' → later = '.' := by
    decide +kernel
  intro operator
  have follow := dotsFollow _ (List.contains_iff_mem.mp operator)
  rw [String.toList_append, left_eq, right_eq, List.append_assoc, List.singleton_append,
    List.isChain_append_cons_cons] at follow
  exact noDot (follow.2.1 rfl)

/-- To the characters of operators words attach nothing but marks and pictographs. -/
theorem start_of_mem_operator
    {operator : String}
    {char : Char}
    (isOperator : isOperator operator)
    (member : char ∈ operator.toList) :
    WordState.start (WordBreak.ofChar char) = some .closed := by
  have closed : operators.all (fun operator => operator.toList.all fun char =>
      WordState.start (WordBreak.ofChar char) = some .closed) = true := by
    decide +kernel
  simp only [List.all_eq_true, decide_eq_true_eq] at closed
  exact closed operator (List.contains_iff_mem.mp isOperator) char member

/-- What stands before the first dot of a word does not start like an operator. -/
theorem not_isOperator_of_pieces
    {first : Char}
    {rest piece : List Char}
    {pieces : List (List Char)}
    (dotted : '.' ∈ wordFrom first rest)
    (pieces_eq : Text.pieces '.' (wordFrom first rest) = piece :: pieces)
    (piece_ne : piece ≠ [])
    (left : String) :
    ¬isOperator (left ++ String.ofList piece) := by
  rw [wordFrom_eq] at dotted pieces_eq
  obtain ⟨head, later, tail_eq⟩ := List.exists_cons_of_ne_nil
    (Text.pieces_ne_nil '.' (rest.take (Unicode.wordTail first rest)))
  by_cases isDot : first = '.'
  · rw [isDot, Text.pieces_separator] at pieces_eq
    exact absurd (List.cons.inj pieces_eq).1.symm piece_ne
  · have tailDotted := (List.mem_cons.mp dotted).resolve_left (Ne.symm isDot)
    rw [Text.pieces_cons_of_ne isDot tail_eq] at pieces_eq
    rw [← (List.cons.inj pieces_eq).1]
    intro operator
    have member : first ∈ (left ++ String.ofList (first :: head)).toList := by
      simp
    have attached :=
      Unicode.attached_of_mem_of_closed (start_of_mem_operator operator member) tailDotted
    revert attached
    decide +kernel

end Token
end Baseline
