import Baseline.Proofs.Location
import Baseline.Text.LineBreaks

/-!
# Ended lines

Texts without line breaks, each ended by a line feed, are the lines of what they make up
together (`lines_join`).  Every text is made up of ended lines and a last line that is not
ended (`line_induction`).
-/

namespace Baseline
namespace Text

/-- The text holds no line break. -/
def IsLine (text : String) : Prop :=
  ∀ char ∈ text.toList, isLineBreak char = false

instance (text : String) : Decidable (IsLine text) :=
  List.decidableBAll (fun char => isLineBreak char = false) text.toList

variable
  {text left right : String}
  {line rest : List Char}
  {texts : List String}

theorem isLine_append : IsLine (left ++ right) ↔ IsLine left ∧ IsLine right := by
  rw [IsLine, String.toList_append]
  exact List.forall_mem_append

theorem IsLine.append (leftLine : IsLine left) (rightLine : IsLine right) :
    IsLine (left ++ right) :=
  isLine_append.mpr ⟨leftLine, rightLine⟩

/-- A number is written in digits. -/
theorem isLine_toString (number : Nat) : IsLine (toString number) := by
  intro char member
  have digit : char.isDigit :=
    Nat.isDigit_of_mem_toDigits (by decide) (by decide) (Nat.toList_repr ▸ member)
  rw [isLineBreak, Bool.or_eq_false_iff, beq_eq_false_iff_ne, beq_eq_false_iff_ne]
  constructor
  · rintro rfl
    cases digit
  · rintro rfl
    cases digit

theorem dropReturn_eq_self (unreturned : line.getLast? ≠ some '\r') : dropReturn line = line :=
  if_neg unreturned

theorem dropReturn_eq_self_iff : dropReturn line = line ↔ line.getLast? ≠ some '\r' := by
  refine ⟨fun same returned => ?_, dropReturn_eq_self⟩
  rw [dropReturn, if_pos returned] at same
  have length_eq := congrArg List.length same
  have nonempty : 0 < line.length :=
    List.length_pos_of_mem (List.mem_of_getLast? returned)
  rw [List.length_dropLast] at length_eq
  omega

theorem dropBreak_append_feed (line : List Char) :
    dropBreak (line ++ ['\n']) = dropReturn line := by
  rw [dropBreak, List.getLast?_concat, if_pos rfl, List.dropLast_concat]

theorem dropBreak_of_not_mem (feedless : '\n' ∉ line) : dropBreak line = line :=
  if_neg fun last => feedless (List.mem_of_getLast? last)

/-- An ended line comes before the lines of the rest. -/
theorem closeLines_pieces_cons (feedless : '\n' ∉ line) :
    closeLines (pieces '\n' (line ++ '\n' :: rest)) =
      dropReturn line :: closeLines (pieces '\n' rest) := by
  rw [pieces_append_separator, pieces_eq_singleton feedless, List.singleton_append]
  obtain ⟨piece, later, rest_eq⟩ := List.exists_cons_of_ne_nil (pieces_ne_nil '\n' rest)
  rw [rest_eq, closeLines]
  exact List.cons_ne_nil _ _

theorem lines_join (allLines : ∀ text ∈ texts, IsLine text) :
    lines (String.join (texts.map (· ++ "\n"))) = texts := by
  induction texts with
  | nil => rfl
  | cons text rest inductionHypothesis =>
      obtain ⟨isLine, restLines⟩ := List.forall_mem_cons.mp allLines
      have feedless : '\n' ∉ text.toList := fun member => by
        cases isLine '\n' member
      have unreturned : text.toList.getLast? ≠ some '\r' := fun last => by
        cases isLine '\r' (List.mem_of_getLast? last)
      have whole : (String.join ((text :: rest).map (· ++ "\n"))).toList =
          text.toList ++ '\n' :: (String.join (rest.map (· ++ "\n"))).toList := by
        rw [List.map_cons, String.join_cons, String.toList_append, String.toList_append,
          List.append_assoc]
        rfl
      rw [lines, whole, closeLines_pieces_cons feedless, dropReturn_eq_self unreturned,
        List.map_cons, String.ofList_toList]
      congr 1
      exact inductionHypothesis restLines

/-! ## The last line -/

/-- A text is a line without a break, or an ended line and the text after it. -/
@[elab_as_elim]
theorem line_induction
    {motive : List Char → Prop}
    (unended : ∀ line, '\n' ∉ line → motive line)
    (ended : ∀ line rest, '\n' ∉ line → motive rest → motive (line ++ '\n' :: rest))
    (text : List Char) :
    motive text := by
  by_cases fed : '\n' ∈ text
  · obtain ⟨line, rest, text_eq, feedless⟩ := List.eq_append_cons_of_mem fed
    have shorter : rest.length < text.length := by
      rw [text_eq, List.length_append, List.length_cons]
      omega
    rw [text_eq]
    exact ended line rest feedless (line_induction unended ended rest)
  · exact unended text fed
termination_by text.length

/-- The lines of a text that a line feed ends, without it. -/
def endedLines (text : List Char) : List (List Char) :=
  (pieces '\n' text).dropLast

/-- What comes after the last line feed of a text. -/
def lastLine (text : List Char) : List Char :=
  (pieces '\n' text).getLast (pieces_ne_nil '\n' text)

theorem endedLines_append_lastLine (text : List Char) :
    endedLines text ++ [lastLine text] = pieces '\n' text :=
  List.dropLast_concat_getLast _

theorem endedLines_of_not_mem (feedless : '\n' ∉ line) : endedLines line = [] := by
  rw [endedLines, pieces_eq_singleton feedless, List.dropLast_singleton]

theorem lastLine_of_not_mem (feedless : '\n' ∉ line) : lastLine line = line := by
  simp only [lastLine, pieces_eq_singleton feedless, List.getLast_singleton]

theorem endedLines_append (feedless : '\n' ∉ line) :
    endedLines (line ++ '\n' :: rest) = line :: endedLines rest := by
  rw [endedLines, pieces_append_separator, pieces_eq_singleton feedless, List.singleton_append,
    List.dropLast_cons_of_ne_nil (pieces_ne_nil '\n' rest), endedLines]

theorem lastLine_append (feedless : '\n' ∉ line) :
    lastLine (line ++ '\n' :: rest) = lastLine rest := by
  simp only [lastLine, pieces_append_separator, pieces_eq_singleton feedless,
    List.singleton_append, List.getLast_cons (pieces_ne_nil '\n' rest)]

theorem length_endedLines (text : List Char) : (endedLines text).length = text.count '\n' := by
  induction text using line_induction with
  | unended line feedless =>
      rw [endedLines_of_not_mem feedless, List.count_eq_zero.mpr feedless, List.length_nil]
  | ended line rest feedless inductionHypothesis =>
      rw [endedLines_append feedless, List.length_cons, inductionHypothesis, List.count_append,
        List.count_eq_zero.mpr feedless, List.count_cons_self, Nat.zero_add]

/-- A carriage return at the end of a text is one at the end of the last line. -/
theorem getLast?_lastLine_eq_return_iff (text : List Char) :
    (lastLine text).getLast? = some '\r' ↔ text.getLast? = some '\r' := by
  induction text using line_induction with
  | unended line feedless => rw [lastLine_of_not_mem feedless]
  | ended line rest feedless inductionHypothesis =>
      rw [lastLine_append feedless, inductionHypothesis, List.getLast?_append, List.getLast?_cons,
        Option.some_or]
      cases rest.getLast? with
      | none => decide
      | some last => rfl

/-- The lines of a text are the ended ones and the last one; past them nothing is read. -/
theorem getD_closeLines (text : List Char) (index : Nat) :
    (closeLines (pieces '\n' text))[index]?.getD [] =
      ((endedLines text).map dropReturn ++ [lastLine text])[index]?.getD [] := by
  induction text using line_induction generalizing index with
  | unended line feedless =>
      rw [pieces_eq_singleton feedless, endedLines_of_not_mem feedless,
        lastLine_of_not_mem feedless, closeLines]
      cases line <;> cases index <;> rfl
  | ended line rest feedless inductionHypothesis =>
      rw [closeLines_pieces_cons feedless, endedLines_append feedless, lastLine_append feedless]
      cases index with
      | zero => rfl
      | succ index => exact inductionHypothesis index

theorem getD_lines (text : String) (index : Nat) :
    (lines text)[index]?.getD "" =
      String.ofList (((endedLines text.toList).map dropReturn ++
        [lastLine text.toList])[index]?.getD []) := by
  rw [← getD_closeLines, lines, List.getElem?_map, ← String.ofList_nil, Option.getD_map]

section Concat

variable
  {ended : List (List Char)}
  {left right : List Char}
  {index : Nat}

/-- Lines that differ in the last one at most agree at every other index. -/
theorem getD_concat_eq_iff :
    (ended ++ [left])[index]?.getD [] = (ended ++ [right])[index]?.getD [] ↔
      (index = ended.length → left = right) := by
  rcases Nat.lt_trichotomy index ended.length with within | rfl | past
  · simp [List.getElem?_append_left within, Nat.ne_of_lt within]
  · simp
  · have beyond : ∀ last : List Char, (ended ++ [last])[index]? = none := fun last =>
      List.getElem?_eq_none (by rw [List.length_append, List.length_singleton]; omega)
    simp [beyond, Nat.ne_of_gt past]

/-- The last line counts unless a blank one comes before it. -/
theorem flatten_takeWhile_concat_eq_iff :
    ((ended ++ [left]).takeWhile fun line => !line.isEmpty).flatten =
        ((ended ++ [right]).takeWhile fun line => !line.isEmpty).flatten ↔
      [] ∈ ended ∨ left = right := by
  by_cases blank : [] ∈ ended
  · obtain ⟨before, after, rfl, visible⟩ := List.eq_append_cons_of_mem blank
    have all : ∀ line ∈ before, (!line.isEmpty) = true := fun line member => by
      simpa using ne_of_mem_of_not_mem member visible
    have cut : ∀ last : List Char,
        (before ++ [] :: after ++ [last]).takeWhile (fun line => !line.isEmpty) = before :=
      fun last => by
        rw [List.append_assoc, List.takeWhile_append_of_pos all, List.cons_append,
          List.takeWhile_cons_of_neg (by simp), List.append_nil]
    simp only [cut, blank, true_or]
  · have all : ∀ line ∈ ended, (!line.isEmpty) = true := fun line member => by
      simpa using ne_of_mem_of_not_mem member blank
    have whole : ∀ last : List Char,
        ((ended ++ [last]).takeWhile fun line => !line.isEmpty).flatten = ended.flatten ++ last :=
      fun last => by
        rw [List.takeWhile_append_of_pos all, List.flatten_append]
        cases last <;> simp
    rw [whole, whole, List.append_cancel_left_eq]
    simp only [blank, false_or]

end Concat

end Text
end Baseline
