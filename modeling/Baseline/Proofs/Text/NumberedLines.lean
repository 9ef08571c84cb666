import Baseline.Proofs.Json.Lexeme
import Baseline.Proofs.Text.EndedLines
import Baseline.Proofs.Text.Recorded
import Mathlib.Data.List.Infix
import Mathlib.Data.List.TakeWhile

/-!
# Lines by their numbers

Every line of a text has a number, and comes after as many line feeds (`lineAt_succ`).  The
lines of the first paragraph are followed by the text after their line feeds, and without stray
carriage returns both together are the text, line breaks apart (`bare_eq_paragraph_append`).
-/

namespace Baseline
namespace Text

open Json (bare)

/-- The line with a number, counted from zero, without one carriage return at its end.  Past the
last line there are empty ones. -/
def lineAt (text : List Char) (index : Nat) : List Char :=
  ((pieces '\n' text).map dropReturn)[index]?.getD []

/-- What comes after so many line feeds, or nothing if there are fewer. -/
def afterFeeds : Nat → List Char → List Char
  | 0, text => text
  | _ + 1, [] => []
  | count + 1, char :: rest =>
      if char = '\n' then afterFeeds count rest else afterFeeds (count + 1) rest

/-- Every carriage return stands before a line feed. -/
def ReturnsBeforeFeeds (text : List Char) : Prop :=
  ∀ before after, text = before ++ '\r' :: after → after.head? = some '\n'

variable
  {text line rest : List Char}
  {count index : Nat}

theorem returnsBeforeFeeds_iff :
    ReturnsBeforeFeeds text ↔
      ∀ rest ∈ text.tails, rest.head? = some '\r' → rest.tail.head? = some '\n' := by
  constructor
  · intro returns rest member starts
    obtain ⟨before, text_eq⟩ := (List.mem_tails _ _).mp member
    obtain ⟨after, rfl⟩ := List.head?_eq_some_iff.mp starts
    exact returns before after text_eq.symm
  · intro tails before after text_eq
    apply tails ('\r' :: after)
    · exact (List.mem_tails _ _).mpr ⟨before, text_eq.symm⟩
    · rfl

instance (text : List Char) : Decidable (ReturnsBeforeFeeds text) :=
  decidable_of_iff _ returnsBeforeFeeds_iff.symm

@[simp] theorem afterFeeds_zero (text : List Char) : afterFeeds 0 text = text := by
  rw [afterFeeds]

@[simp] theorem afterFeeds_nil (count : Nat) : afterFeeds count [] = [] := by
  cases count <;> rw [afterFeeds]

theorem afterFeeds_one (text : List Char) :
    afterFeeds 1 text = (text.dropWhile (· != '\n')).drop 1 := by
  induction text with
  | nil => rfl
  | cons char rest inductionHypothesis =>
      rw [afterFeeds]
      split
      next isFeed =>
        rw [isFeed, afterFeeds_zero]
        rfl
      next other =>
        have goesOn : (char != '\n') = true := bne_iff_ne.mpr other
        rw [inductionHypothesis, List.dropWhile_cons, if_pos goesOn]

/-- The first line feed is followed by the others. -/
theorem afterFeeds_succ (count : Nat) (text : List Char) :
    afterFeeds (count + 1) text = afterFeeds count (afterFeeds 1 text) := by
  induction text with
  | nil => simp
  | cons char rest inductionHypothesis =>
      rw [afterFeeds, afterFeeds]
      split
      · rw [afterFeeds_zero]
      · exact inductionHypothesis

theorem afterFeeds_of_not_mem (feedless : '\n' ∉ line) : afterFeeds (count + 1) line = [] := by
  have all : ∀ char ∈ line, (char != '\n') = true := fun char member =>
    bne_iff_ne.mpr (ne_of_mem_of_not_mem member feedless)
  rw [afterFeeds_succ, afterFeeds_one, List.dropWhile_eq_nil_iff.mpr all, List.drop_nil,
    afterFeeds_nil]

theorem afterFeeds_append (feedless : '\n' ∉ line) :
    afterFeeds (count + 1) (line ++ '\n' :: rest) = afterFeeds count rest := by
  have all : ∀ char ∈ line, (char != '\n') = true := fun char member =>
    bne_iff_ne.mpr (ne_of_mem_of_not_mem member feedless)
  rw [afterFeeds_succ, afterFeeds_one, List.dropWhile_append_of_pos all]
  rfl

theorem lineAt_zero (text : List Char) :
    lineAt text 0 = dropReturn (text.takeWhile (· != '\n')) := by
  rw [lineAt, pieces_eq_cons]
  rfl

theorem lineAt_of_not_mem (feedless : '\n' ∉ line) : lineAt line 0 = dropReturn line := by
  rw [lineAt, pieces_eq_singleton feedless]
  rfl

theorem lineAt_append (feedless : '\n' ∉ line) :
    lineAt (line ++ '\n' :: rest) 0 = dropReturn line := by
  rw [lineAt, pieces_append_separator, pieces_eq_singleton feedless]
  rfl

theorem lineAt_nil (index : Nat) : lineAt [] index = [] := by
  cases index <;> rfl

/-- Later lines are those after the first line feed. -/
theorem lineAt_succ (text : List Char) (index : Nat) :
    lineAt text (index + 1) = lineAt (afterFeeds 1 text) index := by
  rw [afterFeeds_one, lineAt, pieces_eq_cons, List.map_cons, List.getElem?_cons_succ]
  cases text.dropWhile (· != '\n') with
  | nil => exact (lineAt_nil index).symm
  | cons feed rest => rfl

/-! ## Paragraphs -/

/-- The paragraph is the first line and the paragraph after it, if the line is not empty. -/
theorem paragraph_eq_lineAt (text : List Char) :
    paragraph text =
      if (lineAt text 0).isEmpty then []
      else lineAt text 0 :: paragraph (afterFeeds 1 text) := by
  rw [paragraph_eq, lineAt_zero, afterFeeds_one]

theorem paragraph_of_not_mem (feedless : '\n' ∉ line) :
    paragraph line = [dropReturn line].takeWhile fun line => !line.isEmpty := by
  rw [paragraph, pieces_eq_singleton feedless, List.map_singleton]

theorem paragraph_append (feedless : '\n' ∉ line) :
    paragraph (line ++ '\n' :: rest) =
      if (dropReturn line).isEmpty then [] else dropReturn line :: paragraph rest := by
  rw [paragraph, pieces_append_separator, pieces_eq_singleton feedless, List.singleton_append,
    List.map_cons, List.takeWhile_cons, paragraph]
  cases dropReturn line <;> rfl

theorem takeWhile_eq_map_getD (lines : List (List Char)) :
    lines.takeWhile (fun line => !line.isEmpty) =
      (List.range (lines.takeWhile fun line => !line.isEmpty).length).map fun index =>
        lines[index]?.getD [] := by
  induction lines with
  | nil => rfl
  | cons line later inductionHypothesis =>
      rw [List.takeWhile_cons]
      split
      · rw [List.length_cons, List.range_succ_eq_map, List.map_cons, List.map_map]
        exact congrArg (line :: ·) inductionHypothesis
      · rfl

theorem getD_length_takeWhile (lines : List (List Char)) :
    lines[(lines.takeWhile fun line => !line.isEmpty).length]?.getD [] = [] := by
  induction lines with
  | nil => rfl
  | cons line later inductionHypothesis =>
      rw [List.takeWhile_cons]
      split
      · exact inductionHypothesis
      next blank => simpa using blank

/-- The lines of the paragraph are the first ones. -/
theorem paragraph_eq_map (text : List Char) :
    paragraph text = (List.range (paragraph text).length).map (lineAt text) :=
  takeWhile_eq_map_getD _

theorem join_map_ofList (lines : List (List Char)) :
    String.join (lines.map String.ofList) = String.ofList lines.flatten := by
  induction lines with
  | nil => rfl
  | cons line later inductionHypothesis =>
      rw [List.map_cons, String.join_cons, inductionHypothesis, List.flatten_cons,
        String.ofList_append]

theorem join_lineAt (text : List Char) :
    String.join ((List.range (paragraph text).length).map fun index =>
        String.ofList (lineAt text index)) =
      String.ofList (paragraph text).flatten := by
  conv_rhs => rw [paragraph_eq_map]
  rw [← join_map_ofList, List.map_map]
  rfl

/-- After the lines of the paragraph there is an empty one. -/
theorem lineAt_length_paragraph (text : List Char) :
    lineAt text (paragraph text).length = [] :=
  getD_length_takeWhile _

theorem lineAt_ne_nil (within : index < (paragraph text).length) : lineAt text index ≠ [] := by
  have member : lineAt text index ∈ paragraph text := by
    rw [paragraph_eq_map]
    exact List.mem_map_of_mem (List.mem_range.mpr within)
  have visible := List.mem_takeWhile_imp member
  simpa using visible

/-- A line that is not ended has no carriage return. -/
theorem ReturnsBeforeFeeds.return_not_mem
    (returns : ReturnsBeforeFeeds line)
    (feedless : '\n' ∉ line) :
    '\r' ∉ line := by
  intro member
  obtain ⟨before, after, rfl⟩ := List.append_of_mem member
  have feed := List.mem_of_head? (returns before after rfl)
  exact feedless (List.mem_append_right _ (List.mem_cons_of_mem _ feed))

theorem ReturnsBeforeFeeds.of_append
    {before : List Char}
    (returns : ReturnsBeforeFeeds (before ++ text)) :
    ReturnsBeforeFeeds text := by
  intro earlier after text_eq
  apply returns (before ++ earlier) after
  rw [text_eq, List.append_assoc]

theorem bare_eq_self_of_not_mem (unreturned : '\r' ∉ line) (feedless : '\n' ∉ line) :
    bare line = line := by
  apply Json.bare_eq_self
  intro char member
  rw [isLineBreak, Bool.or_eq_false_iff, beq_eq_false_iff_ne, beq_eq_false_iff_ne]
  exact ⟨ne_of_mem_of_not_mem member unreturned, ne_of_mem_of_not_mem member feedless⟩

/-- Of an ended line only a carriage return at its end is a line break. -/
theorem ReturnsBeforeFeeds.bare_line
    (returns : ReturnsBeforeFeeds (line ++ '\n' :: rest))
    (feedless : '\n' ∉ line) :
    bare line = dropReturn line := by
  by_cases returned : '\r' ∈ line
  · obtain ⟨before, after, line_eq, unreturned⟩ := List.eq_append_cons_of_mem returned
    rw [line_eq] at feedless returns
    have beforeFeedless : '\n' ∉ before := fun member => feedless (List.mem_append_left _ member)
    have afterFeedless : '\n' ∉ after := fun member =>
      feedless (List.mem_append_right _ (List.mem_cons_of_mem _ member))
    -- The first carriage return is the last character of the line.
    have atEnd : after = [] := by
      by_contra nonempty
      have next := returns before (after ++ '\n' :: rest) (by simp)
      rw [List.head?_append_of_ne_nil _ nonempty] at next
      exact afterFeedless (List.mem_of_head? next)
    rw [line_eq, atEnd, Json.bare_append, bare_eq_self_of_not_mem unreturned beforeFeedless,
      dropReturn, List.getLast?_concat, if_pos rfl, List.dropLast_concat]
    exact List.append_nil before
  · rw [dropReturn_eq_self fun last => returned (List.mem_of_getLast? last),
      bare_eq_self_of_not_mem returned feedless]

/-- Without stray carriage returns a text is its first paragraph and the text after it, line
breaks apart. -/
theorem bare_eq_paragraph_append (returns : ReturnsBeforeFeeds text) :
    bare text =
      (paragraph text).flatten ++ bare (afterFeeds (paragraph text).length text) := by
  induction text using line_induction with
  | unended line feedless =>
      have unreturned := returns.return_not_mem feedless
      rw [bare_eq_self_of_not_mem unreturned feedless, paragraph_of_not_mem feedless,
        dropReturn_eq_self fun last => unreturned (List.mem_of_getLast? last)]
      cases line with
      | nil => rfl
      | cons char others =>
          change char :: others = [char :: others].flatten ++ bare (afterFeeds 1 (char :: others))
          rw [afterFeeds_of_not_mem feedless]
          simp
  | ended line rest feedless inductionHypothesis =>
      have restReturns : ReturnsBeforeFeeds rest :=
        ReturnsBeforeFeeds.of_append (List.append_cons line '\n' rest ▸ returns)
      rw [paragraph_append feedless]
      split
      · rw [List.flatten_nil, List.nil_append, List.length_nil, afterFeeds_zero]
      · rw [Json.bare_append, returns.bare_line feedless, List.flatten_cons, List.length_cons,
          afterFeeds_append feedless, List.append_assoc, ← inductionHypothesis restReturns]
        rfl

/-- The first paragraph is the whole text, line breaks apart, exactly if only line breaks come
after it. -/
theorem flatten_paragraph_eq_bare_iff (returns : ReturnsBeforeFeeds text) :
    (paragraph text).flatten = bare text ↔
      ∀ char ∈ afterFeeds (paragraph text).length text, isLineBreak char := by
  rw [bare_eq_paragraph_append returns, List.self_eq_append_right, bare, List.filter_eq_nil_iff]
  simp only [Bool.not_eq_true', Bool.not_eq_false]

end Text
end Baseline
