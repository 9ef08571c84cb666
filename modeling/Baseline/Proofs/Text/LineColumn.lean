import Baseline.Proofs.Text.LineIndex
import Mathlib.Data.List.DropRight

/-!
# Lines and columns

The table of line starts gives the line and the column that are counted in the text before an
offset: the line feeds among its bytes, and the characters after the last of them
(`Position.origin_advance_eq`).  A longer text leads to a later place
(`Position.precedes_advance`), so places are ordered as their offsets are.  There is no place
past the end of a text and inside a character, and everywhere else there is one
(`Text.not_isBoundary_iff`).
-/

namespace Baseline

namespace Position

/-- The line is an earlier one, or it is the same and the column is an earlier one. -/
def Precedes (left right : Position) : Prop :=
  left.line < right.line ∨ (left.line = right.line ∧ left.column < right.column)

variable {left middle right position : Position}

theorem Precedes.trans (first : left.Precedes middle) (second : middle.Precedes right) :
    left.Precedes right := by
  unfold Precedes at *
  omega

theorem Precedes.asymm (precedes : left.Precedes right) : ¬right.Precedes left := by
  unfold Precedes at *
  omega

theorem Precedes.irrefl (position : Position) : ¬position.Precedes position :=
  fun precedes => precedes.asymm precedes

theorem precedes_next (position : Position) (char : Char) :
    position.Precedes (position.next char) := by
  unfold Precedes next
  split <;> simp

/-- More text leads to a later place. -/
theorem precedes_advance {text : List Char} (text_ne : text ≠ []) :
    position.Precedes (position.advance text) := by
  induction text generalizing position with
  | nil => exact absurd rfl text_ne
  | cons char rest inductionHypothesis =>
      rw [advance_cons]
      cases rest with
      | nil => exact position.precedes_next char
      | cons next others =>
          exact (position.precedes_next char).trans (inductionHypothesis (List.cons_ne_nil _ _))

/-- Walking through a text counts its line feeds, and the characters after the last one. -/
theorem origin_advance_eq (text : List Char) :
    origin.advance text =
      ⟨String.utf8Len text, 1 + text.count '\n',
        1 + (text.rtakeWhile (· != '\n')).length⟩ := by
  induction text using List.reverseRecOn with
  | nil => rfl
  | append_singleton text char inductionHypothesis =>
      rw [advance_append, inductionHypothesis, String.utf8Len_append, List.count_append,
        List.rtakeWhile_concat]
      by_cases isFeed : char = '\n'
      · subst isFeed
        simp [next, Nat.add_assoc]
      · simp [next, isFeed, Nat.add_assoc]

end Position

namespace Text

/-- The byte offset lies after the first byte of a character and before its last one is
over. -/
def IsInside (text : String) (offset : Nat) : Prop :=
  ∃ before char after, text.toList = before ++ char :: after ∧
    String.utf8Len before < offset ∧ offset < String.utf8Len before + char.utf8Size

variable
  {text : String}
  {chars before after : List Char}
  {offset : Nat}

/-- An offset is at the end of some characters, past all of them, or inside one of them. -/
theorem exists_of_offset (chars : List Char) (offset : Nat) :
    (∃ before after, chars = before ++ after ∧ String.utf8Len before = offset) ∨
      String.utf8Len chars < offset ∨
        ∃ before char after, chars = before ++ char :: after ∧
          String.utf8Len before < offset ∧ offset < String.utf8Len before + char.utf8Size := by
  induction chars generalizing offset with
  | nil =>
      rcases Nat.eq_zero_or_pos offset with rfl | positive
      · exact .inl ⟨[], [], rfl, rfl⟩
      · exact .inr (.inl positive)
  | cons char rest inductionHypothesis =>
      rcases Nat.eq_zero_or_pos offset with rfl | positive
      · exact .inl ⟨[], _, rfl, rfl⟩
      by_cases within : offset < char.utf8Size
      · refine .inr (.inr ⟨[], char, rest, rfl, positive, ?_⟩)
        rwa [String.utf8Len_nil, Nat.zero_add]
      · obtain ⟨further, rfl⟩ := Nat.exists_eq_add_of_le (Nat.le_of_not_lt within)
        rcases inductionHypothesis further with
          ⟨before, after, rfl, rfl⟩ | past | ⟨before, other, after, rfl, starts, ends⟩
        · refine .inl ⟨char :: before, after, rfl, ?_⟩
          rw [String.utf8Len_cons, Nat.add_comm]
        · refine .inr (.inl ?_)
          rw [String.utf8Len_cons]
          omega
        · refine .inr (.inr ⟨char :: before, other, after, rfl, ?_, ?_⟩)
          · rw [String.utf8Len_cons]
            omega
          · rw [String.utf8Len_cons]
            omega

/-- An offset is no boundary exactly if it is past the end or inside a character. -/
theorem not_isBoundary_iff :
    ¬IsBoundary text offset ↔ text.utf8ByteSize < offset ∨ IsInside text offset := by
  constructor
  · intro unbounded
    rcases exists_of_offset text.toList offset with ⟨before, after, text_eq, offset_eq⟩ | outside
    · exact absurd (isBoundary_iff.mpr ⟨before, after, text_eq, offset_eq⟩) unbounded
    · rwa [String.utf8Len_toList] at outside
  · rintro outside boundary
    obtain ⟨before, after, text_eq, rfl⟩ := isBoundary_iff.mp boundary
    rcases outside with past | ⟨first, char, rest, char_eq, starts, ends⟩
    · rw [← String.utf8Len_toList, text_eq, String.utf8Len_append] at past
      omega
    · -- What comes before the boundary has all of the character, and so all of its bytes.
      obtain ⟨between, rfl, rest_eq⟩ :=
        exists_append_of_utf8Len_le (char_eq.symm.trans text_eq) starts.le
      cases between with
      | nil =>
          rw [List.append_nil] at starts
          exact lt_irrefl _ starts
      | cons next others =>
          obtain rfl := (List.cons.inj rest_eq).1
          rw [String.utf8Len_append, String.utf8Len_cons] at ends
          omega

/-- Of the bytes of a text, those of a beginning come first. -/
theorem take_encode (text_eq : text.toList = before ++ after) :
    (encode text).take (String.utf8Len before) = encode (String.ofList before) := by
  have length_eq : (encode (String.ofList before)).length = String.utf8Len before := by
    rw [← String.utf8ByteSize_ofList]
    rfl
  rw [← String.ofList_toList (s := text), text_eq, LineIndex.encode_ofList, List.flatMap_append,
    ← LineIndex.encode_ofList, ← length_eq, List.take_left]

/-- The bytes of line feeds are those of the characters. -/
theorem count_lineFeed_encode (chars : List Char) :
    (encode (String.ofList chars)).count lineFeed = chars.count '\n' := by
  rw [LineIndex.encode_ofList]
  induction chars with
  | nil => rfl
  | cons char rest inductionHypothesis =>
      rw [List.flatMap_cons, List.count_append, inductionHypothesis, List.count_cons]
      by_cases isFeed : char = '\n'
      · subst isFeed
        exact Nat.add_comm _ _
      · rw [List.count_eq_zero.mpr (LineIndex.lineFeed_not_mem_utf8EncodeChar isFeed)]
        simp [isFeed]

end Text

namespace LineIndex

variable
  {text : String}
  {offset : Nat}
  {place other : Position}

theorem pairwise_startsWithin (offset : Nat) (chars : List Char) :
    (startsWithin offset chars).Pairwise (· < ·) := by
  induction chars generalizing offset with
  | nil => exact .nil
  | cons char rest inductionHypothesis =>
      rw [startsWithin]
      split
      · exact .cons (fun start member => (bounds_of_mem_startsWithin member).1)
          (inductionHypothesis _)
      · exact inductionHypothesis _

/-- The table is in order, so it can be searched by halves. -/
theorem pairwise_starts (text : String) : (ofText text).starts.Pairwise (· < ·) := by
  rw [starts_ofText]
  exact .cons (fun start member => (bounds_of_mem_startsWithin member).1)
    (pairwise_startsWithin 0 text.toList)

/-- A place is found at boundaries only, and there it is where the text before leads. -/
theorem position?_eq_some_iff :
    (ofText text).position? text offset = some place ↔
      ∃ before after, text.toList = before ++ after ∧
        String.utf8Len before = offset ∧ Position.origin.advance before = place := by
  rw [position?_eq_locate?, Position.locate?_eq_some_iff]

theorem position?_eq_none_iff :
    (ofText text).position? text offset = none ↔ ¬Text.IsBoundary text offset := by
  rw [Option.eq_none_iff_forall_ne_some, Text.isBoundary_iff]
  simp only [ne_eq, position?_eq_some_iff]
  constructor
  · rintro nowhere ⟨before, after, text_eq, offset_eq⟩
    exact nowhere _ ⟨before, after, text_eq, offset_eq, rfl⟩
  · rintro unbounded place ⟨before, after, text_eq, offset_eq, _⟩
    exact unbounded ⟨before, after, text_eq, offset_eq⟩

/-- The text up to a boundary tells its line and its column. -/
theorem position?_of_isBoundary (boundary : Text.IsBoundary text offset) :
    ∃ before, Text.slice? text 0 offset = some before ∧
      (ofText text).position? text offset =
        some ⟨offset, 1 + ((Text.encode text).take offset).count Text.lineFeed,
          1 + (before.toList.rtakeWhile (· != '\n')).length⟩ := by
  obtain ⟨before, after, text_eq, rfl⟩ := Text.isBoundary_iff.mp boundary
  refine ⟨String.ofList before, ?_, ?_⟩
  · rw [Text.slice?_eq_some_iff]
    refine ⟨[], after, ?_, rfl, ?_⟩
    · rw [String.toList_ofList, text_eq, List.nil_append]
    · rw [String.utf8ByteSize_ofList, Nat.zero_add]
  · rw [position?_of_append text_eq, Position.origin_advance_eq, Text.take_encode text_eq,
      Text.count_lineFeed_encode, String.toList_ofList]

theorem precedes_of_offset_lt
    (found : (ofText text).position? text place.offset = some place)
    (otherFound : (ofText text).position? text other.offset = some other)
    (earlier : place.offset < other.offset) :
    place.Precedes other := by
  obtain ⟨before, after, text_eq, offset_eq, rfl⟩ := position?_eq_some_iff.mp found
  obtain ⟨longer, rest, longer_eq, otherOffset_eq, rfl⟩ := position?_eq_some_iff.mp otherFound
  rw [← offset_eq, ← otherOffset_eq] at earlier
  obtain ⟨between, rfl, _⟩ :=
    Text.exists_append_of_utf8Len_le (text_eq.symm.trans longer_eq) earlier.le
  rw [Position.advance_append]
  refine Position.precedes_advance ?_
  rintro rfl
  rw [List.append_nil] at earlier
  exact lt_irrefl _ earlier

/-- Places are ordered as their offsets are. -/
theorem offset_lt_iff_precedes
    (found : (ofText text).position? text place.offset = some place)
    (otherFound : (ofText text).position? text other.offset = some other) :
    place.offset < other.offset ↔ place.Precedes other := by
  refine ⟨precedes_of_offset_lt found otherFound, fun precedes => ?_⟩
  rcases Nat.lt_trichotomy place.offset other.offset with earlier | same | later
  · exact earlier
  · rw [same, otherFound, Option.some.injEq] at found
    rw [found] at precedes
    exact absurd precedes (Position.Precedes.irrefl place)
  · exact absurd (precedes_of_offset_lt otherFound found later) precedes.asymm

/-- At every boundary the table of a text gives the line and the column that are counted in the
text before: one more than the line feeds among the bytes up to the offset, and one more than
the characters after the last of them.  Places are ordered as their offsets are, by line and
then by column, so no two offsets share a line and a column.  Nothing is found exactly past the
end of the text and inside a character. -/
theorem positions_exact (text : String) :
    (ofText text).starts.Pairwise (· < ·) ∧
      (∀ offset, Text.IsBoundary text offset →
        ∃ before, Text.slice? text 0 offset = some before ∧
          (ofText text).position? text offset =
            some ⟨offset, 1 + ((Text.encode text).take offset).count Text.lineFeed,
              1 + (before.toList.rtakeWhile (· != '\n')).length⟩) ∧
      (∀ place other, (ofText text).position? text place.offset = some place →
        (ofText text).position? text other.offset = some other →
          (place.offset < other.offset ↔ place.Precedes other) ∧
            (place.line = other.line → place.column = other.column → place = other)) ∧
      (∀ offset, (ofText text).position? text offset = none ↔
        text.utf8ByteSize < offset ∨ Text.IsInside text offset) ∧
      ∀ offset, Position.locate? text offset = (ofText text).position? text offset := by
  refine ⟨pairwise_starts text, fun offset => position?_of_isBoundary, ?_, ?_, ?_⟩
  · intro place other found otherFound
    have ordered := offset_lt_iff_precedes found otherFound
    have reversed := offset_lt_iff_precedes otherFound found
    refine ⟨ordered, fun line_eq column_eq => ?_⟩
    have offset_eq : place.offset = other.offset := by
      unfold Position.Precedes at ordered reversed
      omega
    rwa [offset_eq, otherFound, Option.some.injEq, eq_comm] at found
  · exact fun offset => position?_eq_none_iff.trans Text.not_isBoundary_iff
  · exact fun offset => (position?_eq_locate? text offset).symm

/-- After a line feed and a character of two bytes the column counts characters; inside that
character and past the end there is no place. -/
example :
    (ofText "ab\nçé x").position? "ab\nçé x" 8 = some ⟨8, 2, 4⟩ ∧
      (ofText "ab\nçé x").position? "ab\nçé x" 4 = none ∧
        (ofText "ab\nçé x").position? "ab\nçé x" 10 = none := by
  decide +kernel

end LineIndex
end Baseline
