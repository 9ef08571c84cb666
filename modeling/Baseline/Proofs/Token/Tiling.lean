import Baseline.Proofs.Text.Boundary
import Baseline.Proofs.Token.Scanning
import Mathlib.Data.List.Chain

/-!
# Tokens tile their text

The tokens of a text follow each other without a gap or an overlap, and none is
empty (`Tiles`).  At whatever places words are cut, taking them apart at dots and
joining operators keep that, so they are the parts of the text one after the
other (`Tiles.isTiling`).

A relation between a token and the text after it can be carried along: if it
holds of every token as it is made, it holds of every token in the end
(`IsLexical.tiles`).
-/

namespace Baseline

namespace Token

/-- The text that tokens make up together. -/
def textOf (tokens : List Token) : List Char :=
  tokens.flatMap fun token => token.text.toList

/-- From a position on, the tokens make up the text as far as the text `after`
them: each starts where the one before it stops, none is empty, and each fits
the text that follows it. -/
inductive Tiles (Fits : Token → List Char → Prop) :
    Position → List Char → List Token → List Char → Prop
  /-- No token, no text. -/
  | nil {start after} : Tiles Fits start after [] after
  /-- One more token in front. -/
  | cons {start text token rest tokens after}
      (start_eq : token.start = start)
      (text_ne : token.text ≠ "")
      (text_eq : text = token.text.toList ++ rest)
      (fits : Fits token rest)
      (later : Tiles Fits (start.advance token.text.toList) rest tokens after) :
      Tiles Fits start text (token :: tokens) after

/-- The tokens are the parts of the source one after the other. -/
structure IsTiling (source : String) (tokens : List Token) : Prop where
  /-- No token is empty. -/
  text_ne : ∀ token ∈ tokens, token.text ≠ ""
  /-- The first token starts at the first byte. -/
  starts : ∀ token ∈ tokens.head?, token.start.offset = 0
  /-- Each token starts where the one before it stops. -/
  follows : tokens.IsChain fun earlier later => later.start.offset = earlier.stop
  /-- The last token stops after the last byte. -/
  stops : ∀ token ∈ tokens.getLast?, token.stop = source.utf8ByteSize
  /-- Each token is the part of the source between its start and its stop. -/
  extract_eq : ∀ token ∈ tokens,
    String.Pos.Raw.extract source ⟨token.start.offset⟩ ⟨token.stop⟩ = token.text
  /-- Together the tokens are the source. -/
  join_eq : String.join (tokens.map Token.text) = source

/-- The relation between tokens and the texts after them holds of every token
when it is made, and of every operator. -/
structure IsLexical [Unicode.Segmentation] (Fits : Token → List Char → Prop) : Prop where
  /-- It holds of strings and comments. -/
  delimited {start text delimited} :
    Delimited.scan text = .ok (some delimited) →
      Fits ⟨delimited.kind, String.ofList delimited.text, start⟩ delimited.rest
  /-- It holds of the tokens of a word. -/
  word {start first rest} :
    Delimited.scan (first :: rest) = .ok none →
      Tiles Fits start (first :: rest) (ofWord start (wordFrom first rest)) (afterWord first rest)
  /-- It holds of operators. -/
  operator {token rest} :
    token.kind = .punct → isOperator token.text → Fits token rest

variable
  {Fits : Token → List Char → Prop}
  {start : Position}
  {text middle after : List Char}
  {token current next joined : Token}
  {tokens left right : List Token}
  {source : String}

@[simp] theorem textOf_nil : textOf [] = [] := rfl

@[simp] theorem textOf_cons (token : Token) (tokens : List Token) :
    textOf (token :: tokens) = token.text.toList ++ textOf tokens := rfl

@[simp] theorem textOf_append (left right : List Token) :
    textOf (left ++ right) = textOf left ++ textOf right :=
  List.flatMap_append

/-- A token stops where its text leads. -/
theorem stop_eq (token : Token) : token.stop = (token.start.advance token.text.toList).offset := by
  rw [Position.offset_advance, String.utf8Len_toList, stop]

/-! ## Tiling -/

namespace Tiles

theorem append
    (leftTiles : Tiles Fits start text left middle)
    (rightTiles : Tiles Fits (start.advance (textOf left)) middle right after) :
    Tiles Fits start text (left ++ right) after := by
  induction leftTiles with
  | nil => exact rightTiles
  | cons start_eq text_ne text_eq fits later inductionHypothesis =>
      rw [textOf_cons, Position.advance_append] at rightTiles
      exact .cons start_eq text_ne text_eq fits (inductionHypothesis rightTiles)

/-- Tokens that tile a text can be read in two parts. -/
theorem exists_middle (tiles : Tiles Fits start text (left ++ right) after) :
    ∃ middle, Tiles Fits start text left middle ∧
      Tiles Fits (start.advance (textOf left)) middle right after := by
  induction left generalizing start text with
  | nil => exact ⟨text, .nil, tiles⟩
  | cons token left inductionHypothesis =>
      cases tiles with
      | cons start_eq text_ne text_eq fits later =>
          obtain ⟨middle, leftTiles, rightTiles⟩ := inductionHypothesis later
          refine ⟨middle, .cons start_eq text_ne text_eq fits leftTiles, ?_⟩
          rwa [textOf_cons, Position.advance_append]

theorem text_eq (tiles : Tiles Fits start text tokens after) : text = textOf tokens ++ after := by
  induction tiles with
  | nil => rfl
  | cons _ _ text_eq _ _ inductionHypothesis =>
      rw [text_eq, inductionHypothesis, textOf_cons, List.append_assoc]

/-- What is known of one of the tokens. -/
theorem of_middle (tiles : Tiles Fits start text (left ++ token :: right) after) :
    token.start = start.advance (textOf left) ∧
      token.text ≠ "" ∧
        Fits token (textOf right ++ after) := by
  obtain ⟨middle, _, rightTiles⟩ := exists_middle tiles
  cases rightTiles with
  | cons start_eq text_ne _ fits later => exact ⟨start_eq, text_ne, later.text_eq ▸ fits⟩

/-- Each token starts where the one before it stops. -/
theorem isChain (tiles : Tiles Fits start text tokens after) :
    tokens.IsChain fun earlier later => later.start.offset = earlier.stop := by
  induction tiles with
  | nil => exact .nil
  | @cons _ _ token _ _ _ start_eq _ _ _ later inductionHypothesis =>
      cases later with
      | nil => exact .singleton token
      | cons next_eq =>
          refine .cons_cons ?_ inductionHypothesis
          rw [next_eq, ← start_eq, stop_eq]

/-- A token stops before the later ones start. -/
theorem pairwise_stop_le (tiles : Tiles Fits start text tokens after) :
    tokens.Pairwise fun earlier later => earlier.stop ≤ later.start.offset := by
  induction tiles with
  | nil => exact .nil
  | @cons _ _ token _ tokens _ start_eq _ _ _ later inductionHypothesis =>
      refine .cons (fun other member => ?_) inductionHypothesis
      obtain ⟨left, right, rfl⟩ := List.append_of_mem member
      rw [later.of_middle.1, Position.offset_advance _ (textOf left), ← start_eq, ← stop_eq]
      exact Nat.le_add_right _ _

theorem start_lt_stop
    (tiles : Tiles Fits start text tokens after)
    (member : token ∈ tokens) :
    token.start.offset < token.stop := by
  obtain ⟨left, right, rfl⟩ := List.append_of_mem member
  have text_ne : token.text.utf8ByteSize ≠ 0 :=
    mt String.utf8ByteSize_eq_zero_iff.mp tiles.of_middle.2.1
  rw [stop]
  omega

/-- No two tokens cover the same byte. -/
theorem eq_of_covers
    {other : Token}
    {offset : Nat}
    (tiles : Tiles Fits start text tokens after)
    (member : token ∈ tokens)
    (otherMember : other ∈ tokens)
    (covers : token.start.offset ≤ offset ∧ offset < token.stop)
    (otherCovers : other.start.offset ≤ offset ∧ offset < other.stop) :
    other = token := by
  have pairwise := tiles.pairwise_stop_le
  obtain ⟨left, right, rfl⟩ := List.append_of_mem member
  obtain ⟨_, rightPairwise, across⟩ := List.pairwise_append.mp pairwise
  rcases List.mem_append.mp otherMember with inLeft | inRight
  · have before := across other inLeft token List.mem_cons_self
    omega
  · rcases List.mem_cons.mp inRight with rfl | inRight
    · rfl
    · have behind := (List.pairwise_cons.mp rightPairwise).1 other inRight
      omega

end Tiles

/-- A character of the text of some tokens is one of a token among them. -/
theorem exists_token_of_textOf_eq
    {before behind : List Char}
    {char : Char}
    (text_eq : textOf tokens = before ++ char :: behind) :
    ∃ left token right front back,
      tokens = left ++ token :: right ∧
        token.text.toList = front ++ char :: back ∧
          before = textOf left ++ front ∧
            behind = back ++ textOf right := by
  induction tokens generalizing before with
  | nil => simp at text_eq
  | cons token rest inductionHypothesis =>
      have later (within : List Char)
          (before_eq : before = token.text.toList ++ within)
          (rest_eq : textOf rest = within ++ char :: behind) :
          ∃ left other right front back,
            token :: rest = left ++ other :: right ∧
              other.text.toList = front ++ char :: back ∧
                before = textOf left ++ front ∧
                  behind = back ++ textOf right := by
        obtain ⟨left, other, right, front, back, rfl, other_eq, rfl, rfl⟩ :=
          inductionHypothesis rest_eq
        refine ⟨token :: left, other, right, front, back, rfl, other_eq, ?_, rfl⟩
        rw [before_eq, textOf_cons, List.append_assoc]
      rw [textOf_cons] at text_eq
      rcases List.append_eq_append_iff.mp text_eq with
        ⟨within, before_eq, rest_eq⟩ | ⟨within, token_eq, behind_eq⟩
      · exact later within before_eq rest_eq
      · cases within with
        | nil =>
            refine later [] ?_ behind_eq.symm
            rw [token_eq, List.append_nil, List.append_nil]
        | cons head back =>
            cases behind_eq
            exact ⟨[], token, rest, before, back, rfl, token_eq, rfl, rfl⟩

/-! ## Words -/

theorem mem_intercalate
    {separator piece : List Char}
    {pieces : List (List Char)}
    {char : Char}
    (member : piece ∈ pieces)
    (charMember : char ∈ piece) :
    char ∈ separator.intercalate pieces := by
  induction pieces with
  | nil => cases member
  | cons head later inductionHypothesis =>
      cases later with
      | nil => simp_all
      | cons next later =>
          rw [List.intercalate_cons_cons]
          rcases List.mem_cons.mp member with rfl | member
          · simp [charMember]
          · simp [inductionHypothesis member]

/-- A piece of a word is a token if it is not empty. -/
theorem Tiles.piece
    {piece rest : List Char}
    (fits : Fits (ofSegment start piece) rest)
    (later : Tiles Fits (start.advance piece) rest tokens after) :
    Tiles Fits start (piece ++ rest)
      ((if piece.isEmpty then [] else [ofSegment start piece]) ++ tokens) after := by
  cases piece with
  | nil => exact later
  | cons first others =>
      refine .cons rfl ?_ ?_ fits ?_
      · simp [ofSegment]
      · simp [ofSegment]
      · simpa [ofSegment] using later

/-- A dot in a word is a token. -/
theorem Tiles.dot
    {rest : List Char}
    (fits : Fits ⟨.punct, ".", start⟩ rest)
    (later : Tiles Fits (start.next '.') rest tokens after) :
    Tiles Fits start ('.' :: rest) (⟨.punct, ".", start⟩ :: tokens) after := by
  refine .cons rfl ?_ ?_ fits ?_
  · simp
  · simp
  · simpa using later

/-- The tokens of a text cut at its dots tile it. -/
theorem ofPieces_tiles
    {allowed : Char → Prop}
    {pieces : List (List Char)}
    (fits : ∀ token rest, (∀ char ∈ token.text.toList, allowed char) → Fits token rest)
    (dotAllowed : allowed '.')
    (piecesAllowed : ∀ piece ∈ pieces, ∀ char ∈ piece, allowed char) :
    Tiles Fits start (['.'].intercalate pieces ++ after) (ofPieces start pieces) after := by
  induction pieces generalizing start with
  | nil => exact .nil
  | cons piece later inductionHypothesis =>
      have pieceFits (rest : List Char) : Fits (ofSegment start piece) rest :=
        fits _ _ (by simpa [ofSegment] using piecesAllowed piece List.mem_cons_self)
      cases later with
      | nil =>
          rw [List.intercalate_singleton, ofPieces]
          have tiles := Tiles.piece (pieceFits after) .nil
          rwa [List.append_nil] at tiles
      | cons next later =>
          rw [List.intercalate_cons_cons, List.append_assoc, List.append_assoc, ofPieces]
          · have laterAllowed : ∀ piece ∈ next :: later, ∀ char ∈ piece, allowed char :=
              fun piece member => piecesAllowed piece (List.mem_cons_of_mem _ member)
            refine Tiles.piece (pieceFits _) (Tiles.dot (fits _ _ ?_) ?_)
            · simpa using dotAllowed
            · exact inductionHypothesis laterAllowed
          · simp

/-- The tokens of a word tile it. -/
theorem ofWord_tiles
    {word : List Char}
    (word_ne : word ≠ [])
    (fits : ∀ token rest, (∀ char ∈ token.text.toList, char ∈ word) → Fits token rest) :
    Tiles Fits start (word ++ after) (ofWord start word) after := by
  unfold ofWord
  split
  next dotted =>
    conv => enter [3, 1]; rw [← Text.intercalate_pieces '.' word]
    apply ofPieces_tiles fits
    · simpa using dotted.2
    · intro piece member char charMember
      exact Text.intercalate_pieces '.' word ▸ mem_intercalate member charMember
  next =>
    refine .cons rfl ?_ ?_ (fits _ _ ?_) .nil
    · simpa [ofSegment] using word_ne
    · simp [ofSegment]
    · simp [ofSegment]

theorem ofWord_of_not_mem_dot {word : List Char} (dotless : '.' ∉ word) :
    ofWord start word = [ofSegment start word] := by
  rw [ofWord, if_neg]
  exact fun dotted => dotless (by simpa using dotted.2)

/-- The tokens of a word make it up together. -/
theorem textOf_ofWord {word : List Char} (word_ne : word ≠ []) :
    textOf (ofWord start word) = word := by
  have tiles : Tiles (fun _ _ => True) start (word ++ []) (ofWord start word) [] :=
    ofWord_tiles word_ne fun _ _ _ => trivial
  have text_eq := tiles.text_eq
  rw [List.append_nil, List.append_nil] at text_eq
  exact text_eq.symm

theorem wordFrom_ne_nil [Unicode.Segmentation] (first : Char) (rest : List Char) :
    wordFrom first rest ≠ [] :=
  List.cons_ne_nil _ _

/-! ## Operators -/

/-- Two tokens are joined if they are punctuation and make an operator. -/
theorem join?_eq_some_iff :
    current.join? next = some joined ↔
      current.kind = .punct ∧
        next.kind = .punct ∧
          isOperator (current.text ++ next.text) ∧
            joined = { current with text := current.text ++ next.text } := by
  rw [join?]
  split
  next joins => simp [joins, eq_comm]
  next apart =>
    simp only [reduceCtorEq, false_iff]
    exact fun ⟨currentPunct, nextPunct, operator, _⟩ => apart ⟨currentPunct, nextPunct, operator⟩

/-- Joining operators keeps tokens a tiling. -/
theorem Tiles.joinOperatorsFrom
    (operatorFits : ∀ {token rest}, token.kind = .punct → isOperator token.text → Fits token rest)
    (tiles : Tiles Fits start text (current :: tokens) after) :
    Tiles Fits start text (joinOperatorsFrom current tokens) after := by
  fun_induction Token.joinOperatorsFrom current tokens generalizing start text with
  | case1 current => exact tiles
  | case2 current next rest joined found inductionHypothesis =>
      obtain ⟨punct, _, operator, rfl⟩ := join?_eq_some_iff.mp found
      cases tiles with
      | cons start_eq text_ne text_eq _ later =>
          cases later with
          | cons _ _ rest_eq _ later =>
              rw [rest_eq, ← List.append_assoc, ← String.toList_append] at text_eq
              rw [← Position.advance_append, ← String.toList_append] at later
              apply inductionHypothesis
              exact .cons start_eq (by simp [text_ne]) text_eq (operatorFits punct operator) later
  | case3 current next rest apart inductionHypothesis =>
      cases tiles with
      | cons start_eq text_ne text_eq fits later =>
          exact .cons start_eq text_ne text_eq fits (inductionHypothesis later)

theorem Tiles.joinOperators
    (operatorFits : ∀ {token rest}, token.kind = .punct → isOperator token.text → Fits token rest)
    (tiles : Tiles Fits start text tokens after) :
    Tiles Fits start text (joinOperators tokens) after := by
  cases tokens with
  | nil => exact tiles
  | cons first rest => exact tiles.joinOperatorsFrom operatorFits

/-! ## Whole texts -/

section Segmentation

variable [Unicode.Segmentation]

theorem Scans.tiles (lexical : IsLexical Fits) (scans : Scans start text tokens) :
    Tiles Fits start text tokens [] := by
  induction scans with
  | done => exact .nil
  | delimited scanned later inductionHypothesis =>
      refine .cons rfl ?_ ?_ (lexical.delimited scanned) ?_
      · simpa using Delimited.text_ne_nil scanned
      · simpa using (Delimited.scan_append scanned).symm
      · simpa using inductionHypothesis
  | @word start first rest tokens scanned later inductionHypothesis =>
      refine (lexical.word scanned).append ?_
      rwa [textOf_ofWord (wordFrom_ne_nil first rest)]

/-- The tokens of a text come from a scan of it. -/
theorem tokenize_eq_ok_iff :
    tokenize source = .ok tokens ↔
      ∃ pieces, Scans .origin source.toList pieces ∧ joinOperators pieces = tokens := by
  simp only [← scanFrom_eq_ok_iff]
  exact Answer.map_eq_ok_iff

/-- The tokens of a text tile it, and a lexical relation holds of each of them. -/
theorem IsLexical.tiles (lexical : IsLexical Fits) (tokenized : tokenize source = .ok tokens) :
    Tiles Fits .origin source.toList tokens [] := by
  obtain ⟨pieces, scans, rfl⟩ := tokenize_eq_ok_iff.mp tokenized
  exact (scans.tiles lexical).joinOperators lexical.operator

theorem isLexical_true : IsLexical fun _ _ => True where
  delimited _ := trivial
  word {start first rest} _ := by
    rw [← wordFrom_append_afterWord]
    exact ofWord_tiles (wordFrom_ne_nil first rest) fun _ _ _ => trivial
  operator _ _ := trivial

end Segmentation

/-- The last token stops where the whole text leads. -/
theorem Tiles.stop_of_getLast?
    (tiles : Tiles Fits start text tokens after)
    (isLast : tokens.getLast? = some token) :
    token.stop = (start.advance (textOf tokens)).offset := by
  obtain ⟨left, rfl⟩ := List.getLast?_eq_some_iff.mp isLast
  rw [stop_eq, tiles.of_middle.1, textOf_append, Position.advance_append, textOf_cons, textOf_nil,
    List.append_nil]

/-- A token starts where the text of the tokens before it stops. -/
theorem Tiles.offset_eq (tiles : Tiles Fits .origin text (left ++ token :: right) after) :
    token.start.offset = String.utf8Len (textOf left) := by
  rw [tiles.of_middle.1, Position.offset_origin_advance]

/-- A token covers the characters of its text. -/
theorem Tiles.covers
    {front back : List Char}
    {char : Char}
    (tiles : Tiles Fits .origin text (left ++ token :: right) after)
    (token_eq : token.text.toList = front ++ char :: back) :
    token.start.offset ≤ String.utf8Len (textOf left ++ front) ∧
      String.utf8Len (textOf left ++ front) < token.stop := by
  have positive := char.utf8Size_pos
  rw [stop, tiles.offset_eq, ← String.utf8Len_toList, token_eq]
  simp only [String.utf8Len_append, String.utf8Len_cons]
  omega

/-- A token is the part of the source between its start and its end. -/
theorem Tiles.extract_eq
    (tiles : Tiles Fits .origin source.toList tokens [])
    (member : token ∈ tokens) :
    String.Pos.Raw.extract source ⟨token.start.offset⟩ ⟨token.stop⟩ = token.text := by
  obtain ⟨left, right, rfl⟩ := List.append_of_mem member
  have source_eq : source =
      String.ofList (textOf left ++ token.text.toList ++ textOf right) := by
    rw [← String.ofList_toList (s := source), tiles.text_eq]
    simp
  rw [stop, tiles.offset_eq, ← String.utf8Len_toList, source_eq, String.extract_of_valid,
    String.ofList_toList]

theorem Tiles.isTiling (tiles : Tiles Fits .origin source.toList tokens []) :
    IsTiling source tokens := by
  have text_eq : source.toList = textOf tokens := by
    rw [tiles.text_eq, List.append_nil]
  refine ⟨?_, ?_, tiles.isChain, ?_, fun token member => tiles.extract_eq member, ?_⟩
  · intro token member
    obtain ⟨left, right, rfl⟩ := List.append_of_mem member
    exact tiles.of_middle.2.1
  · intro token isFirst
    obtain ⟨rest, rfl⟩ := List.head?_eq_some_iff.mp isFirst
    cases tiles with
    | cons start_eq => rw [start_eq, Position.origin]
  · intro token isLast
    rw [tiles.stop_of_getLast? isLast, Position.offset_advance, ← text_eq, String.utf8Len_toList,
      Position.origin, Nat.zero_add]
  · apply String.toList_injective
    rw [String.toList_join, List.flatMap_map, text_eq]
    rfl

end Token
end Baseline
