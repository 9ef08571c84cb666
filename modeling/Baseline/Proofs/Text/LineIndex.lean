import Baseline.Proofs.Text.Boundary
import Baseline.Text.Bytes
import Mathlib.Data.List.Induction
import Mathlib.Data.List.TakeWhile

/-!
# A table of line starts

Positions can be read off a table of the byte offsets at which lines start: the
line of an offset is the number of starts up to it, and the column counts the
characters between the last of these starts and the offset.  Reading fails where
it would look outside the table or cut the text at something other than a
boundary.  It finds the same positions as a walk through the text
(`LineIndex.position?_eq_locate?`), so it fails only at offsets that are no
boundaries.
-/

namespace Baseline

/-- The byte offsets at which the lines of a text start, in order. -/
structure LineIndex where
  starts : List Nat

namespace LineIndex

/-- Lines start at the first byte and after every byte that is a line feed. -/
def ofText (text : String) : LineIndex where
  starts :=
    0 :: ((Text.encode text).zipIdx.filter fun entry => entry.1 == Text.lineFeed).map fun entry =>
      entry.2 + 1

/-- The position of a byte offset, read off the table. -/
def position? (index : LineIndex) (text : String) (offset : Nat) : Option Position :=
  match (index.starts.takeWhile (· ≤ offset)).length with
  | 0 => none
  | earlier + 1 => do
      let lineStart ← index.starts[earlier]?
      let before ← Text.slice? text lineStart offset
      return ⟨offset, earlier + 1, before.length + 1⟩

/-- The offsets just after the line feeds of a text that starts at an offset. -/
def startsWithin (offset : Nat) : List Char → List Nat
  | [] => []
  | char :: rest =>
      if char = '\n' then
        (offset + char.utf8Size) :: startsWithin (offset + char.utf8Size) rest
      else startsWithin (offset + char.utf8Size) rest

variable
  {text : String}
  {before after chars : List Char}
  {offset start : Nat}

/-! ## Line feeds among bytes -/

theorem encode_ofList (chars : List Char) :
    Text.encode (String.ofList chars) = chars.flatMap String.utf8EncodeChar := by
  simp [Text.encode, String.toUTF8, List.utf8Encode]

/-- Only a line feed is encoded with the byte of a line feed. -/
theorem lineFeed_not_mem_utf8EncodeChar {char : Char} (other : char ≠ '\n') :
    Text.lineFeed ∉ String.utf8EncodeChar char := by
  have code_ne : char.val.toNat ≠ 10 := by
    intro same
    apply other
    apply Char.ext
    apply UInt32.toNat_inj.mp
    exact same
  intro member
  simp only [String.utf8EncodeChar, Text.lineFeed] at member
  split_ifs at member <;>
    simp only [List.mem_cons, List.not_mem_nil, or_false, ← UInt8.toNat_inj,
      UInt8.toNat_ofNat'] at member <;>
    simp only [UInt8.reduceToNat] at member <;>
    omega

/-- The line feeds among the bytes of a text are those among its characters. -/
theorem starts_of_bytes (offset : Nat) (chars : List Char) :
    (((chars.flatMap String.utf8EncodeChar).zipIdx offset).filter fun entry =>
        entry.1 == Text.lineFeed).map (fun entry => entry.2 + 1) =
      startsWithin offset chars := by
  induction chars generalizing offset with
  | nil => rfl
  | cons char rest inductionHypothesis =>
      rw [List.flatMap_cons, List.zipIdx_append, List.filter_append, List.map_append,
        String.length_utf8EncodeChar, inductionHypothesis, startsWithin]
      split
      next isFeed =>
        subst isFeed
        rfl
      next other =>
        have none_here : ((String.utf8EncodeChar char).zipIdx offset).filter
            (fun entry => entry.1 == Text.lineFeed) = [] := by
          rw [List.filter_eq_nil_iff]
          intro entry member isFeed
          apply lineFeed_not_mem_utf8EncodeChar other
          rw [← eq_of_beq isFeed]
          exact List.fst_mem_of_mem_zipIdx member
        rw [none_here, List.map_nil, List.nil_append]

theorem starts_ofText (text : String) :
    (ofText text).starts = 0 :: startsWithin 0 text.toList := by
  rw [ofText, ← starts_of_bytes 0 text.toList, ← encode_ofList, String.ofList_toList]

/-! ## Line starts of parts of a text -/

theorem startsWithin_append (offset : Nat) (before after : List Char) :
    startsWithin offset (before ++ after) =
      startsWithin offset before ++ startsWithin (offset + String.utf8Len before) after := by
  induction before generalizing offset with
  | nil => rfl
  | cons char rest inductionHypothesis =>
      rw [List.cons_append, startsWithin, startsWithin, inductionHypothesis, String.utf8Len_cons,
        Nat.add_assoc, Nat.add_comm char.utf8Size]
      split
      · rw [List.cons_append]
      · rfl

/-- Lines start after the start of the text and not after its end. -/
theorem bounds_of_mem_startsWithin (member : start ∈ startsWithin offset chars) :
    offset < start ∧ start ≤ offset + String.utf8Len chars := by
  induction chars generalizing offset with
  | nil => cases member
  | cons char rest inductionHypothesis =>
      have positive := char.utf8Size_pos
      rw [String.utf8Len_cons]
      rw [startsWithin] at member
      split at member
      next =>
        rcases List.mem_cons.mp member with rfl | member
        · omega
        · have := inductionHypothesis member
          omega
      next =>
        have := inductionHypothesis member
        omega

/-- The starts up to a boundary are those of the text before it. -/
theorem takeWhile_starts (text_eq : text.toList = before ++ after) :
    (ofText text).starts.takeWhile (· ≤ String.utf8Len before) = 0 :: startsWithin 0 before := by
  rw [starts_ofText, text_eq, startsWithin_append, ← List.cons_append, Nat.zero_add,
    List.takeWhile_append_of_pos]
  · rw [List.takeWhile_eq_nil_iff.mpr, List.append_nil]
    intro nonempty
    have := bounds_of_mem_startsWithin (List.getElem_mem nonempty)
    simpa using this.1
  · intro start member
    rcases List.mem_cons.mp member with rfl | member
    · simp
    · have := bounds_of_mem_startsWithin member
      simp only [decide_eq_true_eq]
      omega

/-- The last line of a text starts at the last of the line starts.  A walk through the text
counts the starts as lines and the characters of the last line as columns. -/
theorem exists_lastLine (text : List Char) :
    ∃ earlier finished line,
      text = finished ++ line ∧
        0 :: startsWithin 0 text = earlier ++ [String.utf8Len finished] ∧
          Position.origin.advance text =
            ⟨String.utf8Len text, earlier.length + 1, line.length + 1⟩ := by
  induction text using List.reverseRecOn with
  | nil => exact ⟨[], [], [], rfl, rfl, rfl⟩
  | append_singleton text char inductionHypothesis =>
      obtain ⟨earlier, finished, line, text_eq, starts_eq, advance_eq⟩ := inductionHypothesis
      rw [startsWithin_append, ← List.cons_append, starts_eq, Position.advance_append, advance_eq]
      by_cases isFeed : char = '\n'
      · subst isFeed
        refine ⟨earlier ++ [String.utf8Len finished], text ++ ['\n'], [], ?_, ?_, ?_⟩
        · rw [List.append_nil]
        · simp [startsWithin]
        · simp [Position.next]
      · refine ⟨earlier, finished, line ++ [char], ?_, ?_, ?_⟩
        · rw [text_eq, List.append_assoc]
        · simp [startsWithin, isFeed]
        · simp [Position.next, isFeed, Nat.add_comm]

/-! ## Reading the table -/

theorem position?_of_append (text_eq : text.toList = before ++ after) :
    (ofText text).position? text (String.utf8Len before) =
      some (Position.origin.advance before) := by
  obtain ⟨earlier, finished, line, before_eq, starts_eq, advance_eq⟩ := exists_lastLine before
  have lineStart_eq : (ofText text).starts[earlier.length]? = some (String.utf8Len finished) := by
    rw [starts_ofText, text_eq, startsWithin_append, ← List.cons_append, starts_eq]
    simp
  have line_eq :
      Text.slice? text (String.utf8Len finished) (String.utf8Len before) =
        some (String.ofList line) := by
    rw [before_eq, String.utf8Len_append]
    exact Text.slice?_of_append (by rw [text_eq, before_eq, List.append_assoc])
  rw [position?, takeWhile_starts text_eq, starts_eq, advance_eq, List.length_append,
    List.length_singleton]
  simp [lineStart_eq, line_eq]

theorem isBoundary_of_position? {index : LineIndex} {position : Position}
    (found : index.position? text offset = some position) :
    Text.IsBoundary text offset := by
  rw [position?] at found
  split at found
  next => cases found
  next =>
    simp only [Option.bind_eq_bind, Option.bind_eq_some_iff] at found
    obtain ⟨lineStart, _, line, sliced, _⟩ := found
    exact (Text.isBoundary_of_slice? sliced).2.2

/-- The table gives the positions that a walk through the text gives. -/
theorem position?_eq_locate? (text : String) (offset : Nat) :
    (ofText text).position? text offset = Position.locate? text offset := by
  by_cases boundary : Text.IsBoundary text offset
  · obtain ⟨before, after, text_eq, rfl⟩ := Text.isBoundary_iff.mp boundary
    rw [position?_of_append text_eq, Position.locate?_of_append text_eq]
  · have tableFails : (ofText text).position? text offset = none :=
      Option.eq_none_iff_forall_ne_some.mpr fun _ found =>
        boundary (isBoundary_of_position? found)
    have walkFails : Position.locate? text offset = none :=
      Option.eq_none_iff_forall_ne_some.mpr fun _ found =>
        boundary (Position.isBoundary_of_locate? found)
    rw [tableFails, walkFails]

end LineIndex
end Baseline
