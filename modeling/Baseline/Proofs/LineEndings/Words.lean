import Baseline.Proofs.LineEndings.Text
import Baseline.Proofs.Token.Joining
import Mathlib.Data.List.Forall2

/-!
# Line endings between words

A word holds no line break unless it is one, so carriage returns leave the words
of a text and their tokens as they are (`ofWord_addReturns`).  No operator holds
a line break either, so the same tokens are joined (`joinOperators_rewritten`).
-/

namespace Baseline

open Text (addReturns)

namespace Unicode

variable
  {first : Char}
  {rest : List Char}
  {state : WordState}
  {marked joined : Bool}
  {length : Nat}

theorem WordState.next_lineFeed (state : WordState) (length : Nat) (marked : Bool) :
    state.next length marked .lineFeed = none := by
  cases state <;> rfl

theorem WordState.next_carriageReturn (state : WordState) (length : Nat) (marked : Bool) :
    state.next length marked .carriageReturn = none := by
  cases state <;> rfl

theorem ofChar_lineFeed : WordBreak.ofChar '\n' = .lineFeed := by
  decide +kernel

theorem ofChar_carriageReturn : WordBreak.ofChar '\r' = .carriageReturn := by
  decide +kernel

/-- A word ends before a line feed. -/
theorem wordLength_feed (rest : List Char) :
    wordLength state marked joined length ('\n' :: rest) = state.cut length := by
  have plain : isPictographic '\n' = false := by decide +kernel
  rw [wordLength, ofChar_lineFeed, WordState.next_lineFeed, plain, Bool.and_false]
  rfl

/-- A word ends before a carriage return. -/
theorem wordLength_return (rest : List Char) :
    wordLength state marked joined length ('\r' :: rest) = state.cut length := by
  have plain : isPictographic '\r' = false := by decide +kernel
  rw [wordLength, ofChar_carriageReturn, WordState.next_carriageReturn, plain, Bool.and_false]
  rfl

theorem wordLength_addReturns (rest : List Char) :
    wordLength state marked joined length (addReturns rest) =
      wordLength state marked joined length rest := by
  induction rest generalizing state marked joined length with
  | nil => rfl
  | cons char rest inductionHypothesis =>
      by_cases isFeed : char = '\n'
      · subst isFeed
        rw [Text.addReturns_feed, wordLength_feed, wordLength_return]
      · rw [Text.addReturns_cons isFeed]
        simp only [wordLength, inductionHypothesis]

theorem wordTail_of_ne_return (noReturn : first ≠ '\r') :
    wordTail first rest =
      match WordState.start (WordBreak.ofChar first) with
      | some state =>
          wordLength state false (WordBreak.ofChar first = .joiner) 1 rest - 1
      | none => 0 := by
  unfold wordTail
  split
  next => exact absurd rfl noReturn
  next => rfl

/-- A word is as long in a text with carriage returns. -/
theorem wordTail_addReturns (noReturn : first ≠ '\r') (rest : List Char) :
    wordTail first (addReturns rest) = wordTail first rest := by
  rw [wordTail_of_ne_return noReturn, wordTail_of_ne_return noReturn]
  simp only [wordLength_addReturns]

/-- After its first character a word holds no line feed. -/
theorem feed_not_mem_take_wordTail (noReturn : first ≠ '\r') :
    '\n' ∉ rest.take (wordTail first rest) := by
  have notAttached : isAttached '\n' = false := by decide +kernel
  have notPictographic : isPictographic '\n' = false := by decide +kernel
  intro member
  rw [wordTail_of_ne_return noReturn] at member
  split at member
  next starts =>
    refine of_mem_take_wordLength (fun _ => True) (fun char => char ≠ '\n') trivial
      ?_ ?_ ?_ trivial (WordState.cut_start_le starts) member rfl
    · rintro _ attached rfl
      rw [notAttached] at attached
      cases attached
    · rintro _ pictographic rfl
      rw [notPictographic] at pictographic
      cases pictographic
    · intro state after length marked char _ goesOn
      refine ⟨trivial, ?_⟩
      rintro rfl
      rw [ofChar_lineFeed, WordState.next_lineFeed] at goesOn
      cases goesOn
  next => simp at member

end Unicode

namespace Token

/-- The same token up to its place and carriage returns. -/
structure Rewritten (left right : Token) : Prop where
  /-- The kinds are the same. -/
  kind_eq : right.kind = left.kind
  /-- The right text is the left text with carriage returns. -/
  text_eq : right.text.toList = addReturns left.text.toList

variable
  {start other : Position}
  {first : Char}
  {word rest : List Char}
  {source : String}
  {tokens : List Token}

/-- A line feed is a word by itself. -/
theorem wordTail_feed (rest : List Char) : Unicode.wordTail '\n' rest = 0 := by
  rw [Unicode.wordTail_of_ne_return (by decide), Unicode.ofChar_lineFeed]
  rfl

/-- The first word of a text with carriage returns. -/
theorem exists_word_addReturns (noReturn : first ≠ '\r') (rest : List Char) :
    ∃ head tail, addReturns (first :: rest) = head :: tail ∧
      wordFrom head tail = addReturns (wordFrom first rest) ∧
        afterWord head tail = addReturns (afterWord first rest) := by
  by_cases isFeed : first = '\n'
  · subst isFeed
    refine ⟨'\r', '\n' :: addReturns rest, rfl, ?_, ?_⟩
    · rw [wordFrom_eq, wordFrom_eq, wordTail_feed]
      rfl
    · rw [afterWord_eq, afterWord_eq, wordTail_feed]
      rfl
  · have noFeed : '\n' ∉ rest.take (Unicode.wordTail first rest) :=
      Unicode.feed_not_mem_take_wordTail noReturn
    obtain ⟨take_eq, drop_eq⟩ := Text.take_addReturns noFeed
    refine ⟨first, addReturns rest, Text.addReturns_cons isFeed rest, ?_, ?_⟩
    · rw [wordFrom_eq, wordFrom_eq, Unicode.wordTail_addReturns noReturn, take_eq,
        Text.addReturns_cons isFeed, Text.addReturns_eq_self noFeed]
    · rw [afterWord_eq, afterWord_eq, Unicode.wordTail_addReturns noReturn, drop_eq]

theorem ofSegment_rewritten {segment : List Char} (noFeed : '\n' ∉ segment) :
    Rewritten (ofSegment start segment) (ofSegment other segment) := by
  refine ⟨rfl, ?_⟩
  simp only [ofSegment, String.toList_ofList, Text.addReturns_eq_self noFeed]

theorem ofPiece_rewritten {piece : List Char} (noFeed : '\n' ∉ piece) :
    List.Forall₂ Rewritten
      (if piece.isEmpty then [] else [ofSegment start piece])
      (if piece.isEmpty then [] else [ofSegment other piece]) := by
  split
  · exact .nil
  · exact .cons (ofSegment_rewritten noFeed) .nil

theorem ofPieces_rewritten {pieces : List (List Char)} (noFeed : ∀ piece ∈ pieces, '\n' ∉ piece) :
    List.Forall₂ Rewritten (ofPieces start pieces) (ofPieces other pieces) := by
  induction pieces generalizing start other with
  | nil => exact .nil
  | cons piece later inductionHypothesis =>
      rw [List.forall_mem_cons] at noFeed
      cases later with
      | nil => exact ofPiece_rewritten noFeed.1
      | cons next others =>
          have dot_eq : ".".toList = addReturns ".".toList := by decide
          rw [ofPieces_cons (List.cons_ne_nil next others),
            ofPieces_cons (List.cons_ne_nil next others)]
          refine List.rel_append (ofPiece_rewritten noFeed.1) (.cons ⟨rfl, dot_eq⟩ ?_)
          exact inductionHypothesis noFeed.2

/-- The tokens of a word do not depend on its place. -/
theorem ofWord_rewritten (noFeed : '\n' ∉ word) :
    List.Forall₂ Rewritten (ofWord start word) (ofWord other word) := by
  have piecesNoFeed : ∀ piece ∈ Text.pieces '.' word, '\n' ∉ piece := by
    intro piece member inPiece
    have inWord : '\n' ∈ ['.'].intercalate (Text.pieces '.' word) :=
      mem_intercalate member inPiece
    rw [Text.intercalate_pieces] at inWord
    exact noFeed inWord
  unfold ofWord
  split
  · exact ofPieces_rewritten piecesNoFeed
  · exact .cons (ofSegment_rewritten noFeed) .nil

/-- The tokens of the first word of a text with carriage returns. -/
theorem ofWord_addReturns (noReturn : first ≠ '\r') (rest : List Char) :
    List.Forall₂ Rewritten (ofWord start (wordFrom first rest))
      (ofWord other (addReturns (wordFrom first rest))) := by
  by_cases isFeed : first = '\n'
  · subst isFeed
    have word_eq : wordFrom '\n' rest = ['\n'] := by
      rw [wordFrom_eq, wordTail_feed]
      rfl
    have kind_eq : classify ['\r', '\n'] = classify ['\n'] := by decide
    rw [word_eq, Text.addReturns_feed, ofWord_of_not_mem_dot (by decide),
      ofWord_of_not_mem_dot (by decide)]
    refine .cons ⟨kind_eq, ?_⟩ .nil
    simp only [ofSegment, String.toList_ofList]
    rfl
  · have noFeed : '\n' ∉ wordFrom first rest := by
      rw [wordFrom_eq, List.mem_cons, not_or]
      exact ⟨Ne.symm isFeed, Unicode.feed_not_mem_take_wordTail noReturn⟩
    rw [Text.addReturns_eq_self noFeed]
    exact ofWord_rewritten noFeed

/-! ## Operators -/

theorem isOperator_rewritten
    {left right : String}
    (text_eq : right.toList = addReturns left.toList) :
    isOperator right = isOperator left := by
  have noBreak : ∀ operator ∈ operators,
      '\n' ∉ operator.toList ∧ '\r' ∉ operator.toList := by
    decide +kernel
  by_cases feed : '\n' ∈ left.toList
  · have leftNot : isOperator left = false := by
      rw [Bool.eq_false_iff]
      exact fun operator => (noBreak left (List.contains_iff_mem.mp operator)).1 feed
    have rightNot : isOperator right = false := by
      rw [Bool.eq_false_iff]
      intro operator
      apply (noBreak right (List.contains_iff_mem.mp operator)).2
      rw [text_eq]
      exact Text.return_mem_addReturns feed
    rw [leftNot, rightNot]
  · rw [Text.addReturns_eq_self feed, String.toList_inj] at text_eq
    rw [text_eq]

/-- What is joined stays joined. -/
theorem join?_rewritten
    {left next newLeft newNext : Token}
    (leftRewritten : Rewritten left newLeft)
    (nextRewritten : Rewritten next newNext) :
    Option.Rel Rewritten (left.join? next) (newLeft.join? newNext) := by
  have text_eq : (newLeft.text ++ newNext.text).toList =
      addReturns (left.text ++ next.text).toList := by
    rw [String.toList_append, leftRewritten.text_eq, nextRewritten.text_eq, String.toList_append,
      Text.addReturns_append]
  rw [join?, join?, leftRewritten.kind_eq, nextRewritten.kind_eq, isOperator_rewritten text_eq]
  split
  · exact .some ⟨rfl, text_eq⟩
  · exact .none

theorem joinOperatorsFrom_rewritten
    {current newCurrent : Token}
    {newTokens : List Token}
    (currentRewritten : Rewritten current newCurrent)
    (rewritten : List.Forall₂ Rewritten tokens newTokens) :
    List.Forall₂ Rewritten (joinOperatorsFrom current tokens)
      (joinOperatorsFrom newCurrent newTokens) := by
  induction rewritten generalizing current newCurrent with
  | nil => exact .cons currentRewritten .nil
  | @cons next newNext tokens newTokens nextRewritten _ inductionHypothesis =>
      have joined := join?_rewritten currentRewritten nextRewritten
      rw [joinOperatorsFrom, joinOperatorsFrom]
      cases left_eq : current.join? next with
      | none =>
          cases right_eq : newCurrent.join? newNext with
          | none => exact .cons currentRewritten (inductionHypothesis nextRewritten)
          | some both =>
              rw [left_eq, right_eq] at joined
              cases joined
      | some both =>
          cases right_eq : newCurrent.join? newNext with
          | none =>
              rw [left_eq, right_eq] at joined
              cases joined
          | some newBoth =>
              rw [left_eq, right_eq] at joined
              cases joined with
              | some bothRewritten => exact inductionHypothesis bothRewritten

theorem joinOperators_rewritten
    {newTokens : List Token}
    (rewritten : List.Forall₂ Rewritten tokens newTokens) :
    List.Forall₂ Rewritten (joinOperators tokens) (joinOperators newTokens) := by
  cases rewritten with
  | nil => exact .nil
  | cons first rest => exact joinOperatorsFrom_rewritten first rest

/-- Only punctuation is joined. -/
theorem mem_joinOperatorsFrom_iff
    {token current : Token}
    (other : token.kind ≠ .punct) :
    token ∈ joinOperatorsFrom current tokens ↔ token ∈ current :: tokens := by
  fun_induction joinOperatorsFrom current tokens with
  | case1 current => rfl
  | case2 current next rest joined found inductionHypothesis =>
      obtain ⟨currentPunct, nextPunct, _, rfl⟩ := join?_eq_some_iff.mp found
      have notCurrent : token ≠ current := fun same => other (same ▸ currentPunct)
      have notNext : token ≠ next := fun same => other (same ▸ nextPunct)
      have notJoined : token ≠ { current with text := current.text ++ next.text } := by
        rintro rfl
        exact other currentPunct
      rw [inductionHypothesis]
      simp [notCurrent, notNext, notJoined]
  | case3 current next rest apart inductionHypothesis =>
      rw [List.mem_cons, inductionHypothesis, ← List.mem_cons]

theorem mem_joinOperators_iff {token : Token} (other : token.kind ≠ .punct) :
    token ∈ joinOperators tokens ↔ token ∈ tokens := by
  cases tokens with
  | nil => rfl
  | cons first rest => exact mem_joinOperatorsFrom_iff other

end Token
end Baseline
