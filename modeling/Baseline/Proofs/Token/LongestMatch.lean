import Baseline.Proofs.Bytewise.Joining
import Mathlib.Data.List.Infix

/-!
# Operators as longest matches

The segments of a text are strings, comments, words, and the parts of words that are cut at
dots.  Punctuation is joined one segment at a time and never looks ahead.  Still, from the left,
each token takes as many segments as can be read as one operator (`LongestMatches`), because
every beginning of an operator is an operator too (`isOperator_of_isPrefix`).  A text is read
that way run by run, and no two neighbours make an operator (`operators_are_longest_matches`).
-/

namespace Baseline
namespace Token

/-- All the segments are punctuation, and their texts make up an operator. -/
def FormsOperator (segments : List Token) : Prop :=
  (∀ segment ∈ segments, segment.kind = .punct) ∧ isOperator (String.ofList (textOf segments))

/-- What some segments in a row are read as: one segment is a token as it is, several are an
operator. -/
inductive ReadAs : List Token → Token → Prop
  /-- One segment. -/
  | single (segment : Token) : ReadAs [segment] segment
  /-- An operator, which starts where its first segment does. -/
  | operator {first second : Token} {rest : List Token}
      (forms : FormsOperator (first :: second :: rest)) :
      ReadAs (first :: second :: rest)
        ⟨.punct, String.ofList (textOf (first :: second :: rest)), first.start⟩

/-- From the left, each token is read of the segments that are left, and no operator starts with
the same segments and takes more of those that follow. -/
inductive LongestMatches : List Token → List Token → Prop
  /-- No segments are left. -/
  | nil : LongestMatches [] []
  /-- One more token in front. -/
  | cons {segments rest tokens : List Token} {token : Token}
      (readAs : ReadAs segments token)
      (longest : ∀ more, more ≠ [] → more <+: rest → ¬FormsOperator (segments ++ more))
      (later : LongestMatches rest tokens) :
      LongestMatches (segments ++ rest) (token :: tokens)

/-- Punctuation in a row, with none right before it and none right after it. -/
structure IsRun (before run after : List Token) : Prop where
  /-- The run is punctuation. -/
  punct : ∀ segment ∈ run, segment.kind = .punct
  /-- It does not start earlier. -/
  starts : ∀ last ∈ before.getLast?, last.kind ≠ .punct
  /-- It does not go on. -/
  ends : ∀ next ∈ after.head?, next.kind ≠ .punct

/-- The tokens are the segments with operators read by longest match. -/
structure IsLongestReading (segments tokens : List Token) : Prop where
  /-- Each segment starts where the one before it stops. -/
  touching : segments.IsChain fun earlier later => later.start.offset = earlier.stop
  /-- The tokens are the longest matches from the left, and nothing else is. -/
  longest : ∀ other, LongestMatches segments other ↔ other = tokens
  /-- Each run of punctuation is read by itself. -/
  runs : ∀ before run after, segments = before ++ run ++ after → IsRun before run after →
    ∃ left joined right, tokens = left ++ joined ++ right ∧
      LongestMatches before left ∧ LongestMatches run joined ∧ LongestMatches after right
  /-- No two neighbours make an operator. -/
  apart : tokens.IsChain fun earlier later =>
    earlier.kind = .punct → later.kind = .punct → ¬isOperator (earlier.text ++ later.text)

variable
  {segments rest left right tokens other : List Token}
  {token current next joined : Token}
  {beginning text : List Char}
  {source : String}

/-! ## Beginnings of operators -/

/-- What an operator begins with is an operator, if it has two characters or more. -/
theorem isOperator_of_isPrefix
    (operator : isOperator (String.ofList text))
    (begins : beginning <+: text)
    (long : 2 ≤ beginning.length) :
    isOperator (String.ofList beginning) := by
  have closed : ∀ operator ∈ operators, ∀ beginning ∈ operator.toList.inits,
      2 ≤ beginning.length → isOperator (String.ofList beginning) := by
    decide +kernel
  have member := List.contains_iff_mem.mp operator
  refine closed _ member beginning ?_ long
  rwa [String.toList_ofList, List.mem_inits]

theorem length_le_length_textOf (nonempty : ∀ segment ∈ segments, segment.text ≠ "") :
    segments.length ≤ (textOf segments).length := by
  induction segments with
  | nil => exact Nat.le_refl _
  | cons segment rest inductionHypothesis =>
      obtain ⟨segment_ne, rest_ne⟩ := List.forall_mem_cons.mp nonempty
      have positive : segment.text.toList.length ≠ 0 := by
        simpa using segment_ne
      have atMost := inductionHypothesis rest_ne
      rw [textOf_cons, List.length_append, List.length_cons]
      omega

/-- The first segments of an operator form one, if they are two or more. -/
theorem FormsOperator.of_append
    (forms : FormsOperator (left ++ right))
    (nonempty : ∀ segment ∈ left, segment.text ≠ "")
    (several : 2 ≤ left.length) :
    FormsOperator left := by
  obtain ⟨punct, operator⟩ := forms
  refine ⟨fun segment member => punct segment (List.mem_append_left _ member), ?_⟩
  refine isOperator_of_isPrefix operator ?_ (several.trans (length_le_length_textOf nonempty))
  rw [textOf_append]
  exact List.prefix_append _ _

/-! ## One token -/

namespace ReadAs

theorem ne_nil (readAs : ReadAs segments token) : segments ≠ [] := by
  cases readAs <;> exact List.cons_ne_nil _ _

theorem toList_text (readAs : ReadAs segments token) : token.text.toList = textOf segments := by
  cases readAs with
  | single => rw [textOf_cons, textOf_nil, List.append_nil]
  | operator => exact String.toList_ofList

/-- Punctuation is read of punctuation only. -/
theorem punct_iff (readAs : ReadAs segments token) :
    token.kind = .punct ↔ ∀ segment ∈ segments, segment.kind = .punct := by
  cases readAs with
  | single => rw [List.forall_mem_singleton]
  | operator forms => exact iff_of_true rfl forms.1

theorem unique {second : Token} (readAs : ReadAs segments token) (other : ReadAs segments second) :
    token = second := by
  cases readAs with
  | single => cases other; rfl
  | operator => cases other; rfl

/-- Segments that are read as one token form an operator, unless there is one only. -/
theorem formsOperator (readAs : ReadAs segments token) (several : 2 ≤ segments.length) :
    FormsOperator segments := by
  cases readAs with
  | single => simp at several
  | operator forms => exact forms

/-- The text of one more segment comes after that of the token. -/
theorem textOf_concat (readAs : ReadAs segments current) :
    String.ofList (textOf (segments ++ [next])) = current.text ++ next.text := by
  apply String.toList_injective
  rw [String.toList_ofList, textOf_append, String.toList_append, readAs.toList_text, textOf_cons,
    textOf_nil, List.append_nil]

/-- A token is joined with the next segment exactly if its segments and that one form an
operator. -/
theorem join?_eq_none_iff (readAs : ReadAs segments current) :
    current.join? next = none ↔ ¬FormsOperator (segments ++ [next]) := by
  rw [join?, ite_eq_right_iff, FormsOperator, readAs.textOf_concat, List.forall_mem_append,
    List.forall_mem_singleton, ← readAs.punct_iff, and_assoc]
  simp

/-- What is joined is read of the segments of both. -/
theorem of_join? (readAs : ReadAs segments current) (found : current.join? next = some joined) :
    ReadAs (segments ++ [next]) joined := by
  have forms : FormsOperator (segments ++ [next]) := by
    by_contra unformed
    rw [readAs.join?_eq_none_iff.mpr unformed] at found
    cases found
  obtain ⟨punct, _, _, rfl⟩ := join?_eq_some_iff.mp found
  rw [← readAs.textOf_concat, punct]
  cases readAs with
  | single => exact .operator forms
  | operator => exact .operator forms

end ReadAs

/-! ## Reading from the left -/

/-- Joining from the left gives the longest matches. -/
theorem longestMatches_joinOperatorsFrom
    (readAs : ReadAs segments current)
    (nonempty : ∀ segment ∈ segments ++ rest, segment.text ≠ "") :
    LongestMatches (segments ++ rest) (joinOperatorsFrom current rest) := by
  induction rest generalizing segments current with
  | nil =>
      refine .cons readAs (fun more more_ne begins => ?_) .nil
      exact absurd (List.prefix_nil.mp begins) more_ne
  | cons next rest inductionHypothesis =>
      rw [joinOperatorsFrom]
      cases found : current.join? next with
      | some joined =>
          rw [List.append_cons] at nonempty ⊢
          exact inductionHypothesis (readAs.of_join? found) nonempty
      | none =>
          have restNonempty : ∀ segment ∈ [next] ++ rest, segment.text ≠ "" :=
            fun segment member => nonempty segment (List.mem_append_right _ member)
          refine .cons readAs (fun more more_ne begins forms => ?_)
            (inductionHypothesis (.single next) restNonempty)
          -- An operator that goes on further would begin with the one that is not there.
          obtain ⟨head, others, rfl⟩ := List.exists_cons_of_ne_nil more_ne
          obtain ⟨rfl, _⟩ := List.cons_prefix_cons.mp begins
          rw [List.append_cons] at forms
          have positive := List.length_pos_iff.mpr readAs.ne_nil
          refine readAs.join?_eq_none_iff.mp found (forms.of_append ?_ ?_)
          · intro segment member
            rw [List.append_cons] at nonempty
            exact nonempty segment (List.mem_append_left _ member)
          · rw [List.length_append, List.length_singleton]
            omega

theorem longestMatches_joinOperators (nonempty : ∀ segment ∈ segments, segment.text ≠ "") :
    LongestMatches segments (joinOperators segments) := by
  cases segments with
  | nil => exact .nil
  | cons first rest => exact longestMatches_joinOperatorsFrom (.single first) nonempty

namespace LongestMatches

theorem eq_nil (matched : LongestMatches segments tokens) (empty : segments = []) :
    tokens = [] := by
  cases matched with
  | nil => rfl
  | cons readAs => exact absurd (List.append_eq_nil_iff.mp empty).1 readAs.ne_nil

theorem exists_cons (matched : LongestMatches segments tokens) (segments_ne : segments ≠ []) :
    ∃ taken others token later,
      segments = taken ++ others ∧ tokens = token :: later ∧ ReadAs taken token ∧
        (∀ more, more ≠ [] → more <+: others → ¬FormsOperator (taken ++ more)) ∧
          LongestMatches others later := by
  cases matched with
  | nil => exact absurd rfl segments_ne
  | cons readAs longest later => exact ⟨_, _, _, _, rfl, rfl, readAs, longest, later⟩

/-- Where segments can be read as a longest match, none that starts with them can be longer. -/
theorem isPrefix_of_append_eq
    {taken others : List Token}
    (segments_ne : segments ≠ [])
    (longest : ∀ more, more ≠ [] → more <+: rest → ¬FormsOperator (segments ++ more))
    (readAs : ReadAs taken token)
    (same : segments ++ rest = taken ++ others) :
    taken <+: segments := by
  rcases List.append_eq_append_iff.mp same with ⟨more, rfl, rest_eq⟩ | ⟨more, rfl, _⟩
  · by_cases nothing : more = []
    · rw [nothing, List.append_nil]
    · refine absurd (readAs.formsOperator ?_) (longest more nothing ⟨_, rest_eq.symm⟩)
      have positive := List.length_pos_iff.mpr segments_ne
      have morePositive := List.length_pos_iff.mpr nothing
      rw [List.length_append]
      omega
  · exact List.prefix_append _ _

/-- There is only one way to read segments by longest match. -/
theorem unique
    (matched : LongestMatches segments tokens)
    (otherMatched : LongestMatches segments other) :
    tokens = other := by
  induction matched generalizing other with
  | nil => exact (otherMatched.eq_nil rfl).symm
  | @cons segments rest tokens token readAs longest later inductionHypothesis =>
      obtain ⟨taken, others, first, behind, same, rfl, takenRead, takenLongest, othersMatched⟩ :=
        otherMatched.exists_cons (List.append_ne_nil_of_left_ne_nil readAs.ne_nil rest)
      have shorter := isPrefix_of_append_eq readAs.ne_nil longest takenRead same
      have longer := isPrefix_of_append_eq takenRead.ne_nil takenLongest readAs same.symm
      have taken_eq : taken = segments :=
        shorter.eq_of_length (le_antisymm shorter.length_le longer.length_le)
      subst taken_eq
      rw [← List.append_cancel_left same] at othersMatched
      rw [readAs.unique takenRead, inductionHypothesis othersMatched]

/-! ## Runs -/

/-- A token takes no segments beyond a place where one of two neighbours is no punctuation. -/
theorem isPrefix_of_stops
    (readAs : ReadAs segments token)
    (whole : left ++ right = segments ++ rest)
    (left_ne : left ≠ [])
    (stops : (∀ last ∈ left.getLast?, last.kind ≠ .punct) ∨
      ∀ next ∈ right.head?, next.kind ≠ .punct) :
    segments <+: left := by
  rcases List.append_eq_append_iff.mp whole with ⟨beyond, rfl, rfl⟩ | ⟨beyond, rfl, _⟩
  · cases beyond with
    | nil => rw [List.append_nil]
    | cons next beyond =>
        have positive := List.length_pos_iff.mpr left_ne
        have forms := readAs.formsOperator (by rw [List.length_append, List.length_cons]; omega)
        rcases stops with lastStops | nextStops
        · refine absurd (forms.1 _ ?_) (lastStops _ (List.getLast?_eq_some_getLast left_ne))
          exact List.mem_append_left _ (List.getLast_mem left_ne)
        · refine absurd (forms.1 next ?_) (nextStops next rfl)
          exact List.mem_append_right _ List.mem_cons_self
  · exact List.prefix_append _ _

/-- Where one of two neighbours is no punctuation, the segments before and those after are read
apart. -/
theorem exists_append
    (matched : LongestMatches (left ++ right) tokens)
    (stops : (∀ last ∈ left.getLast?, last.kind ≠ .punct) ∨
      ∀ next ∈ right.head?, next.kind ≠ .punct) :
    ∃ leftTokens rightTokens, tokens = leftTokens ++ rightTokens ∧
      LongestMatches left leftTokens ∧ LongestMatches right rightTokens := by
  generalize whole : left ++ right = segments at matched
  induction matched generalizing left with
  | nil =>
      obtain ⟨rfl, rfl⟩ := List.append_eq_nil_iff.mp whole
      exact ⟨[], [], rfl, .nil, .nil⟩
  | @cons segments rest tokens token readAs longest later inductionHypothesis =>
      by_cases left_ne : left = []
      · subst left_ne
        refine ⟨[], token :: tokens, rfl, .nil, ?_⟩
        rw [← List.nil_append right, whole]
        exact .cons readAs longest later
      · obtain ⟨beyond, rfl⟩ := isPrefix_of_stops readAs whole left_ne stops
        rw [List.append_assoc] at whole
        obtain rfl := List.append_cancel_left whole
        have beyondStops : (∀ last ∈ beyond.getLast?, last.kind ≠ .punct) ∨
            ∀ next ∈ right.head?, next.kind ≠ .punct := by
          refine stops.imp_left fun lastStops last isLast => lastStops last ?_
          exact List.mem_getLast?_append_of_mem_getLast? isLast
        obtain ⟨beyondTokens, rightTokens, rfl, beyondMatched, rightMatched⟩ :=
          inductionHypothesis beyondStops rfl
        refine ⟨token :: beyondTokens, rightTokens, rfl, .cons readAs ?_ beyondMatched,
          rightMatched⟩
        exact fun more more_ne begins =>
          longest more more_ne (begins.trans (List.prefix_append _ _))

/-- No two neighbours make an operator, as they would have been read as one. -/
theorem isChain (matched : LongestMatches segments tokens) :
    tokens.IsChain fun earlier later =>
      earlier.kind = .punct → later.kind = .punct → ¬isOperator (earlier.text ++ later.text) := by
  induction matched with
  | nil => exact .nil
  | @cons segments rest tokens token readAs longest later inductionHypothesis =>
      cases later with
      | nil => exact .singleton token
      | @cons others behind later next nextRead _ _ =>
          refine .cons_cons (fun punct nextPunct operator => ?_) inductionHypothesis
          refine longest others nextRead.ne_nil (List.prefix_append _ _) ⟨?_, ?_⟩
          · exact List.forall_mem_append.mpr
              ⟨readAs.punct_iff.mp punct, nextRead.punct_iff.mp nextPunct⟩
          · rw [textOf_append, ← readAs.toList_text, ← nextRead.toList_text,
              ← String.toList_append, String.ofList_toList]
            exact operator

/-- Each run of punctuation is read by itself. -/
theorem of_isRun
    {before run after : List Token}
    (matched : LongestMatches (before ++ run ++ after) tokens)
    (isRun : IsRun before run after) :
    ∃ beforeTokens runTokens afterTokens,
      tokens = beforeTokens ++ runTokens ++ afterTokens ∧
        LongestMatches before beforeTokens ∧ LongestMatches run runTokens ∧
          LongestMatches after afterTokens := by
  obtain ⟨_, afterTokens, rfl, matched, afterMatched⟩ := matched.exists_append (.inr isRun.ends)
  obtain ⟨beforeTokens, runTokens, rfl, beforeMatched, runMatched⟩ :=
    matched.exists_append (.inl isRun.starts)
  exact ⟨beforeTokens, runTokens, afterTokens, rfl, beforeMatched, runMatched, afterMatched⟩

end LongestMatches

/-! ## Whole texts -/

/-- The tokens of a text are the longest matches of its segments: in every run of punctuation
each token is one segment or an operator, no operator goes on further than the token that
starts where it does, and no two neighbours make an operator.  They are also the tokens that
are found by joining punctuation with the last token as it comes, while the parts of words
between dots are never joined. -/
theorem operators_are_longest_matches (tokenized : tokenize source = .ok tokens) :
    ∃ segments, Scans .origin source.toList segments ∧ IsLongestReading segments tokens ∧
      Bytewise.tokenize (.ofText source) source = .ok (tokens.map Bytewise.Piece.ofToken) := by
  obtain ⟨segments, scans, rfl⟩ := tokenize_eq_ok_iff.mp tokenized
  have tiles := scans.tiles isLexical_true
  have matched : LongestMatches segments (joinOperators segments) := by
    refine longestMatches_joinOperators fun segment member => ?_
    obtain ⟨left, right, rfl⟩ := List.append_of_mem member
    exact tiles.of_middle.2.1
  refine ⟨segments, scans, ⟨tiles.isChain, fun other => ?_, ?_, matched.isChain⟩, ?_⟩
  · exact ⟨fun otherMatched => otherMatched.unique matched, fun same => same ▸ matched⟩
  · rintro before run after rfl isRun
    exact matched.of_isRun isRun
  · exact Bytewise.tokenize_of_tokens tokenized

/-- Two shifts, an equals sign and three dots that follow a word cut at its dot are three
operators: the longest ones that start there, and not the other ways to cut the run. -/
theorem operators_are_longest_matches_of_shift :
    let source := "a.b<<=...c"
    let tokens : List Token :=
      [⟨.word, "a", ⟨0, 1, 1⟩⟩, ⟨.punct, ".", ⟨1, 1, 2⟩⟩, ⟨.word, "b", ⟨2, 1, 3⟩⟩,
       ⟨.punct, "<<", ⟨3, 1, 4⟩⟩, ⟨.punct, "=", ⟨5, 1, 6⟩⟩, ⟨.punct, "...", ⟨6, 1, 7⟩⟩,
       ⟨.word, "c", ⟨9, 1, 10⟩⟩]
    tokenize source = .ok tokens ∧
      ∃ segments, Scans .origin source.toList segments ∧ IsLongestReading segments tokens ∧
        Bytewise.tokenize (.ofText source) source = .ok (tokens.map Bytewise.Piece.ofToken) :=
  have tokenized := by decide +kernel
  ⟨tokenized, operators_are_longest_matches tokenized⟩

end Token
end Baseline
