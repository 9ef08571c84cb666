import Baseline.Text.Position
import Mathlib.Data.String.Basic

/-!
# Byte offsets in a text

A byte offset is a boundary if a character starts or the text ends there.  A
slice is the part of a text between two boundaries; there is none if an offset
is out of range or inside a character.  Both are tied to lists of characters
(`isBoundary_iff`, `slice?_eq_some_iff`), and so is the search for the position
of an offset (`Position.locate?_eq_some_iff`).
-/

namespace Baseline

/-- A text moves a position on by its bytes. -/
theorem Position.offset_advance (position : Position) (text : List Char) :
    (position.advance text).offset = position.offset + String.utf8Len text := by
  induction text generalizing position with
  | nil => rfl
  | cons char rest inductionHypothesis =>
      rw [advance_cons, inductionHypothesis, String.utf8Len_cons]
      simp only [next]
      omega

/-- From the start on, bytes are counted from zero. -/
theorem Position.offset_origin_advance (text : List Char) :
    (origin.advance text).offset = String.utf8Len text := by
  rw [offset_advance, origin, Nat.zero_add]

namespace Text

/-- A character starts, or the text ends, at the byte offset. -/
def IsBoundary (text : String) (offset : Nat) : Prop :=
  String.Pos.Raw.IsValid text ⟨offset⟩

instance (text : String) (offset : Nat) : Decidable (IsBoundary text offset) :=
  inferInstanceAs (Decidable (String.Pos.Raw.IsValid text ⟨offset⟩))

/-- The text between two byte offsets, unless one of them is no boundary or they are in
the wrong order. -/
def slice? (text : String) (start stop : Nat) : Option String :=
  if start ≤ stop ∧ IsBoundary text start ∧ IsBoundary text stop then
    some (String.Pos.Raw.extract text ⟨start⟩ ⟨stop⟩)
  else none

variable
  {text part left right : String}
  {start middle stop offset : Nat}

/-- A boundary cuts the text in two. -/
theorem isBoundary_iff :
    IsBoundary text offset ↔
      ∃ before after, text.toList = before ++ after ∧ String.utf8Len before = offset := by
  rw [IsBoundary, String.Pos.Raw.isValid_iff_exists_append]
  constructor
  · rintro ⟨before, after, rfl, offset_eq⟩
    refine ⟨before.toList, after.toList, String.toList_append, ?_⟩
    rw [String.utf8Len_toList]
    exact (congrArg String.Pos.Raw.byteIdx offset_eq).symm
  · rintro ⟨before, after, text_eq, rfl⟩
    refine ⟨String.ofList before, String.ofList after, ?_, ?_⟩
    · rw [← String.ofList_append, ← text_eq, String.ofList_toList]
    · rw [String.rawEndPos_ofList]

/-- No character is empty. -/
theorem length_le_utf8Len (text : List Char) : text.length ≤ String.utf8Len text := by
  induction text with
  | nil => exact Nat.le_refl _
  | cons char rest inductionHypothesis =>
      have positive := char.utf8Size_pos
      rw [List.length_cons, String.utf8Len_cons]
      omega

/-- Of two beginnings of a text, the one with no more bytes begins the other. -/
theorem exists_append_of_utf8Len_le
    {before after other rest : List Char}
    (text_eq : before ++ after = other ++ rest)
    (shorter : String.utf8Len before ≤ String.utf8Len other) :
    ∃ between, other = before ++ between ∧ after = between ++ rest := by
  rcases List.append_eq_append_iff.mp text_eq with
    ⟨between, other_eq, after_eq⟩ | ⟨between, before_eq, rest_eq⟩
  · exact ⟨between, other_eq, after_eq⟩
  · have empty : between = [] := by
      rw [before_eq, String.utf8Len_append] at shorter
      apply String.utf8Len_eq_zero.mp
      omega
    subst empty
    exact ⟨[], by simpa using before_eq.symm, by simpa using rest_eq.symm⟩

/-- A slice is what lies between a beginning and an end of the text. -/
theorem slice?_eq_some_iff :
    slice? text start stop = some part ↔
      ∃ before after, text.toList = before ++ (part.toList ++ after) ∧
        String.utf8Len before = start ∧ stop = start + part.utf8ByteSize := by
  constructor
  · intro sliced
    rw [slice?, Option.ite_none_right_eq_some] at sliced
    obtain ⟨⟨ordered, startBoundary, stopBoundary⟩, part_eq⟩ := sliced
    obtain ⟨before, rest, text_eq, rfl⟩ := isBoundary_iff.mp startBoundary
    obtain ⟨longer, after, longer_eq, rfl⟩ := isBoundary_iff.mp stopBoundary
    obtain ⟨between, rfl, rfl⟩ := exists_append_of_utf8Len_le (text_eq.symm.trans longer_eq) ordered
    have source_eq : text = String.ofList (before ++ between ++ after) := by
      rw [← String.ofList_toList (s := text), longer_eq]
    rw [source_eq, String.utf8Len_append, String.extract_of_valid, Option.some.injEq] at part_eq
    subst part_eq
    refine ⟨before, after, ?_, rfl, ?_⟩
    · rw [String.toList_ofList, text_eq]
    · rw [String.utf8Len_append, String.utf8ByteSize_ofList]
  · rintro ⟨before, after, text_eq, rfl, rfl⟩
    have source_eq : text = String.ofList (before ++ part.toList ++ after) := by
      rw [← String.ofList_toList (s := text), text_eq, List.append_assoc]
    rw [slice?, if_pos]
    · rw [source_eq, ← String.utf8Len_toList part, String.extract_of_valid, String.ofList_toList]
    · refine ⟨Nat.le_add_right _ _, isBoundary_iff.mpr ⟨before, _, text_eq, rfl⟩,
        isBoundary_iff.mpr ⟨before ++ part.toList, after, ?_, ?_⟩⟩
      · rw [text_eq, List.append_assoc]
      · rw [String.utf8Len_append, String.utf8Len_toList]

/-- The characters between a beginning and an end of the text are a slice of it. -/
theorem slice?_of_append
    {before between after : List Char}
    (text_eq : text.toList = before ++ (between ++ after)) :
    slice? text (String.utf8Len before) (String.utf8Len before + String.utf8Len between) =
      some (String.ofList between) := by
  refine slice?_eq_some_iff.mpr ⟨before, after, ?_, rfl, ?_⟩
  · rw [String.toList_ofList, text_eq]
  · rw [String.utf8ByteSize_ofList]

/-- The end of the text from a boundary on. -/
theorem slice?_to_end
    {before after : List Char}
    (text_eq : text.toList = before ++ after) :
    slice? text (String.utf8Len before) text.utf8ByteSize = some (String.ofList after) := by
  rw [← String.utf8Len_toList text, text_eq, String.utf8Len_append]
  exact slice?_of_append (by rw [text_eq, List.append_nil])

/-- Two slices that touch make one slice. -/
theorem slice?_append
    (leftSliced : slice? text start middle = some left)
    (rightSliced : slice? text middle stop = some right) :
    slice? text start stop = some (left ++ right) := by
  rw [slice?_eq_some_iff] at leftSliced rightSliced ⊢
  obtain ⟨before, rest, text_eq, rfl, rfl⟩ := leftSliced
  obtain ⟨longer, after, longer_eq, longerLength, rfl⟩ := rightSliced
  rw [← List.append_assoc] at text_eq
  have length_eq : String.utf8Len (before ++ left.toList) = String.utf8Len longer := by
    rw [longerLength, String.utf8Len_append, String.utf8Len_toList]
  obtain ⟨between, rfl, rest_eq⟩ :=
    exists_append_of_utf8Len_le (text_eq.symm.trans longer_eq) length_eq.le
  rw [String.utf8Len_append _ between, left_eq_add, String.utf8Len_eq_zero] at length_eq
  subst length_eq
  refine ⟨before, after, ?_, rfl, ?_⟩
  · rw [longer_eq, String.toList_append]
    simp
  · rw [String.utf8ByteSize_append, Nat.add_assoc]

/-- The ends of a slice are boundaries in their order. -/
theorem isBoundary_of_slice? (sliced : slice? text start stop = some part) :
    start ≤ stop ∧ IsBoundary text start ∧ IsBoundary text stop := by
  rw [slice?, Option.ite_none_right_eq_some] at sliced
  exact sliced.1

/-- There is a slice between boundaries. -/
theorem exists_slice?
    (ordered : start ≤ stop)
    (startBoundary : IsBoundary text start)
    (stopBoundary : IsBoundary text stop) :
    ∃ part, slice? text start stop = some part := by
  rw [slice?, if_pos ⟨ordered, startBoundary, stopBoundary⟩]
  exact ⟨_, rfl⟩

end Text

namespace Position

variable
  {text : String}
  {offset : Nat}
  {start position : Position}

theorem locateFrom_eq_some_iff {chars : List Char} :
    locateFrom offset start chars = some position ↔
      ∃ before after, chars = before ++ after ∧
        (start.advance before).offset = offset ∧ start.advance before = position := by
  induction chars generalizing start with
  | nil =>
      simp only [locateFrom, Option.ite_none_right_eq_some, Option.some.injEq]
      constructor
      · rintro ⟨found, rfl⟩
        exact ⟨[], [], rfl, found, rfl⟩
      · rintro ⟨before, after, chars_eq, found, rfl⟩
        obtain ⟨rfl, rfl⟩ := List.append_eq_nil_iff.mp chars_eq.symm
        exact ⟨found, rfl⟩
  | cons char rest inductionHypothesis =>
      rw [locateFrom]
      split
      next found =>
        rw [Option.some.injEq]
        constructor
        · rintro rfl
          exact ⟨[], _, rfl, found, rfl⟩
        · rintro ⟨before, after, _, sameOffset, rfl⟩
          -- Nothing lies before the place, as any character would move the offset on.
          have empty : String.utf8Len before = 0 := by
            rw [offset_advance, ← found] at sameOffset
            omega
          rw [String.utf8Len_eq_zero.mp empty, advance_nil]
      next elsewhere =>
        rw [inductionHypothesis]
        constructor
        · rintro ⟨before, after, rfl, found, rfl⟩
          exact ⟨char :: before, after, rfl, found, rfl⟩
        · rintro ⟨before, after, chars_eq, found, rfl⟩
          rcases List.cons_eq_append_iff.mp chars_eq with ⟨rfl, _⟩ | ⟨shorter, rfl, rest_eq⟩
          · exact absurd found elsewhere
          · exact ⟨shorter, after, rest_eq, found, rfl⟩

/-- The place of a byte offset is where the text before it leads. -/
theorem locate?_eq_some_iff :
    locate? text offset = some position ↔
      ∃ before after, text.toList = before ++ after ∧
        String.utf8Len before = offset ∧ origin.advance before = position := by
  simp only [locate?, locateFrom_eq_some_iff, offset_advance, origin, Nat.zero_add]

theorem isBoundary_of_locate? (found : locate? text offset = some position) :
    Text.IsBoundary text offset := by
  obtain ⟨before, after, text_eq, offset_eq, _⟩ := locate?_eq_some_iff.mp found
  exact Text.isBoundary_iff.mpr ⟨before, after, text_eq, offset_eq⟩

/-- The place where the text after a beginning starts. -/
theorem locate?_of_append
    {before after : List Char}
    (text_eq : text.toList = before ++ after) :
    locate? text (String.utf8Len before) = some (origin.advance before) :=
  locate?_eq_some_iff.mpr ⟨before, after, text_eq, rfl, rfl⟩

end Position
end Baseline
