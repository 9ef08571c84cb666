import Baseline.Text.LineBreaks

/-!
# What a text records

Line breaks alone record nothing.  Reading by lines stops at the first empty line, so it
sees the first `paragraph` of a text only.
-/

namespace Baseline
namespace Text

/-- The text holds something besides line breaks. -/
def IsRecorded (text : String) : Prop :=
  ∃ char ∈ text.toList, char ≠ '\r' ∧ char ≠ '\n'

instance (text : String) : Decidable (IsRecorded text) :=
  List.decidableBEx (fun char => char ≠ '\r' ∧ char ≠ '\n') text.toList

/-- Without its line breaks a text is empty exactly if it records nothing. -/
theorem stripLineBreaks_isEmpty_iff {text : String} :
    (stripLineBreaks text).isEmpty = false ↔ IsRecorded text := by
  rw [← Bool.not_eq_true, String.isEmpty_iff, ← String.toList_inj, toList_stripLineBreaks]
  simp only [IsRecorded, String.toList_empty, List.filter_eq_nil_iff]
  simp [isLineBreak]

/-! ## The first paragraph -/

/-- The lines before the first empty one, each without one carriage return at its
end. -/
def paragraph (text : List Char) : List (List Char) :=
  ((pieces '\n' text).map dropReturn).takeWhile fun line => !line.isEmpty

theorem subset_of_mem_pieces
    {separator : Char}
    {piece text : List Char}
    (member : piece ∈ pieces separator text) :
    piece ⊆ text := by
  induction text generalizing piece with
  | nil =>
      rw [pieces_nil, List.mem_singleton] at member
      rw [member]
      exact List.nil_subset _
  | cons char rest inductionHypothesis =>
      obtain ⟨first, later, rest_eq⟩ := List.exists_cons_of_ne_nil (pieces_ne_nil separator rest)
      by_cases same : char = separator
      · rw [same, pieces_separator, List.mem_cons] at member
        rcases member with rfl | member
        · exact List.nil_subset _
        · exact List.subset_cons_of_subset _ (inductionHypothesis member)
      · rw [pieces_cons_of_ne same rest_eq, List.mem_cons] at member
        rcases member with rfl | member
        · exact List.cons_subset_cons _ (inductionHypothesis (rest_eq ▸ List.mem_cons_self))
        · have inRest := inductionHypothesis (rest_eq ▸ List.mem_cons_of_mem _ member)
          exact List.subset_cons_of_subset _ inRest

theorem dropReturn_subset (line : List Char) : dropReturn line ⊆ line := by
  unfold dropReturn
  split
  · exact List.dropLast_subset line
  · exact List.Subset.refl line

/-- What the paragraph holds is in the text. -/
theorem subset_of_mem_paragraph
    {line text : List Char}
    (member : line ∈ paragraph text) :
    line ⊆ text := by
  have mapped := (List.takeWhile_sublist _).mem member
  obtain ⟨piece, inPieces, rfl⟩ := List.mem_map.mp mapped
  exact List.Subset.trans (dropReturn_subset piece) (subset_of_mem_pieces inPieces)

theorem pieces_eq_cons (separator : Char) (text : List Char) :
    pieces separator text =
      text.takeWhile (· != separator) ::
        match text.dropWhile (· != separator) with
        | [] => []
        | _ :: rest => pieces separator rest := by
  induction text with
  | nil => rfl
  | cons char rest inductionHypothesis =>
      by_cases same : char = separator
      · subst same
        rw [pieces_separator, List.takeWhile_cons_of_neg (by simp),
          List.dropWhile_cons_of_neg (by simp)]
      · rw [pieces_cons_of_ne same inductionHypothesis, List.takeWhile_cons_of_pos (by simp [same]),
          List.dropWhile_cons_of_pos (by simp [same])]

/-- The paragraph is the line at the start of the text and the paragraph after it, if
the line is not empty. -/
theorem paragraph_eq (text : List Char) :
    paragraph text =
      if (dropReturn (text.takeWhile (· != '\n'))).isEmpty then []
      else
        dropReturn (text.takeWhile (· != '\n')) ::
          paragraph ((text.dropWhile (· != '\n')).drop 1) := by
  rw [paragraph, pieces_eq_cons, List.map_cons, List.takeWhile_cons]
  cases dropReturn (text.takeWhile (· != '\n')) with
  | nil => rfl
  | cons first later =>
      cases text.dropWhile (· != '\n') with
      | nil => rfl
      | cons feed rest => rfl

section Line

variable {line rest : List Char}

theorem takeWhile_line (visible : ∀ char ∈ line, isLineBreak char = false) :
    (line ++ '\n' :: rest).takeWhile (· != '\n') = line := by
  have noFeed : ∀ char ∈ line, (char != '\n') = true := by
    intro char member
    have notBreak := visible char member
    simp only [isLineBreak, Bool.or_eq_false_iff] at notBreak
    rw [bne, notBreak.2]
    rfl
  rw [List.takeWhile_append_of_pos noFeed, List.takeWhile_cons_of_neg (by simp), List.append_nil]

theorem dropWhile_line (visible : ∀ char ∈ line, isLineBreak char = false) :
    (line ++ '\n' :: rest).dropWhile (· != '\n') = '\n' :: rest := by
  have whole := List.takeWhile_append_dropWhile (p := (· != '\n')) (l := line ++ '\n' :: rest)
  rw [takeWhile_line visible] at whole
  exact List.append_cancel_left whole

/-- An ended line that is not blank is followed by the rest of the paragraph. -/
theorem paragraph_line
    (visible : ∀ char ∈ line, isLineBreak char = false)
    (nonempty : line ≠ []) :
    paragraph (line ++ '\n' :: rest) = line :: paragraph rest := by
  have noReturn : line.getLast? ≠ some '\r' := by
    intro last
    have breaks := visible '\r' (List.mem_of_getLast? last)
    cases breaks
  rw [paragraph_eq, takeWhile_line visible, dropWhile_line visible, dropReturn, if_neg noReturn,
    if_neg (by simpa using nonempty), List.drop_succ_cons, List.drop_zero]

end Line

end Text
end Baseline
