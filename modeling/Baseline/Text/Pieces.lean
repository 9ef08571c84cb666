/-!
# Cutting at a separator

`pieces` cuts a text at every occurrence of one character.  There is always at
least one piece, and joining the pieces with the separator gives the text back
(`intercalate_pieces`).
-/

namespace Baseline
namespace Text

/-- The texts between the separators, the empty ones included. -/
def pieces (separator : Char) : List Char → List (List Char)
  | [] => [[]]
  | char :: rest =>
      if char = separator then [] :: pieces separator rest
      else
        match pieces separator rest with
        | [] => [[char]]
        | piece :: later => (char :: piece) :: later

@[simp] theorem pieces_nil (separator : Char) : pieces separator [] = [[]] := rfl

@[simp] theorem pieces_separator (separator : Char) (rest : List Char) :
    pieces separator (separator :: rest) = [] :: pieces separator rest := by
  simp [pieces]

theorem pieces_ne_nil (separator : Char) (text : List Char) :
    pieces separator text ≠ [] := by
  cases text with
  | nil => simp
  | cons char rest =>
      unfold pieces
      split
      · simp
      · split <;> simp

/-- A character that does not separate joins the first piece of what follows. -/
theorem pieces_cons_of_ne
    {separator char : Char}
    (different : char ≠ separator)
    {rest piece : List Char}
    {later : List (List Char)}
    (rest_eq : pieces separator rest = piece :: later) :
    pieces separator (char :: rest) = (char :: piece) :: later := by
  simp [pieces, different, rest_eq]

/-- The pieces, joined with the separator, are the text. -/
theorem intercalate_pieces (separator : Char) (text : List Char) :
    [separator].intercalate (pieces separator text) = text := by
  induction text with
  | nil => simp [List.intercalate]
  | cons char rest inductionHypothesis =>
      obtain ⟨piece, later, rest_eq⟩ :=
        List.exists_cons_of_ne_nil (pieces_ne_nil separator rest)
      by_cases same : char = separator
      · subst same
        rw [rest_eq] at inductionHypothesis
        rw [pieces_separator, rest_eq]
        rw [← inductionHypothesis]
        simp [List.intercalate]
      · rw [pieces_cons_of_ne same rest_eq, ← inductionHypothesis, rest_eq]
        cases later <;> simp [List.intercalate]

/-- The separator stands before every piece but the first. -/
theorem intercalate_cons (separator : Char) (piece : List Char) (later : List (List Char)) :
    [separator].intercalate (piece :: later) = piece ++ later.flatMap (separator :: ·) := by
  induction later generalizing piece with
  | nil => simp
  | cons next later inductionHypothesis =>
      rw [List.intercalate_cons_cons, inductionHypothesis]
      simp

/-- No piece holds the separator. -/
theorem not_mem_of_mem_pieces
    {separator : Char}
    {text piece : List Char}
    (member : piece ∈ pieces separator text) :
    separator ∉ piece := by
  induction text generalizing piece with
  | nil => simp_all
  | cons char rest inductionHypothesis =>
      obtain ⟨head, later, rest_eq⟩ :=
        List.exists_cons_of_ne_nil (pieces_ne_nil separator rest)
      by_cases same : char = separator
      · subst same
        rw [pieces_separator, List.mem_cons] at member
        rcases member with rfl | member
        · simp
        · exact inductionHypothesis member
      · rw [pieces_cons_of_ne same rest_eq, List.mem_cons] at member
        rcases member with rfl | member
        · have absent := inductionHypothesis (rest_eq ▸ List.mem_cons_self)
          simp only [List.mem_cons, not_or]
          exact ⟨fun equal => same equal.symm, absent⟩
        · exact inductionHypothesis (rest_eq ▸ List.mem_cons_of_mem _ member)

end Text
end Baseline
