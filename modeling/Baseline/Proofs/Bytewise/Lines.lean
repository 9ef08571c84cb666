import Baseline.Proofs.Bytewise.Delimited
import Baseline.Proofs.Compare.Reading
import Baseline.Proofs.LineReading

/-!
# Reading a file by byte offsets

A reader that keeps the text of a file and the byte offset up to which it has been read has to
slice the text whenever it is asked for a line or for all that is left.  No slice fails, whatever
it is asked for and in whatever order, and the answers are those of a reader that holds the
characters that are left (`answers_eq`): numbered lines, then what comes after them, and then
nothing (`answers_lines`).  So reading lines up to an empty one comes to an end (`joinLines_eq`).
-/

namespace Baseline

/-- What a reader is asked for. -/
inductive Ask
  /-- The next line. -/
  | line
  /-- All that is left. -/
  | rest
  deriving DecidableEq

namespace Store.Reader

/-- What a reader answers, and the reader after it. -/
def answer (reader : Reader) : Ask → String × Reader
  | .line => reader.readLine
  | .rest => reader.readRest

/-- What a reader answers when it is asked several times. -/
def answers : Reader → List Ask → List String
  | _, [] => []
  | reader, ask :: later => (reader.answer ask).1 :: answers (reader.answer ask).2 later

/-- At the end of the text there is nothing but empty answers. -/
theorem answers_nil (asks : List Ask) : answers ⟨[]⟩ asks = asks.map fun _ => "" := by
  induction asks with
  | nil => rfl
  | cons ask later inductionHypothesis =>
      rw [List.map_cons, ← inductionHypothesis]
      cases ask <;> rfl

/-- Lines are answered in their order, and what is asked for next comes after them. -/
theorem answers_lines (text : List Char) (count : Nat) (later : List Ask) :
    answers ⟨text⟩ (List.replicate count .line ++ later) =
      ((List.range count).map fun index => String.ofList (Text.lineAt text index)) ++
        answers ⟨Text.afterFeeds count text⟩ later := by
  induction count generalizing text with
  | zero => rw [Text.afterFeeds_zero]; rfl
  | succ count inductionHypothesis =>
      rw [List.replicate_succ, List.cons_append, answers, answer, readLine_eq,
        inductionHypothesis, List.range_succ_eq_map, List.map_cons, List.map_map,
        List.cons_append, Text.afterFeeds_succ count text]
      simp only [Function.comp_def, Text.lineAt_succ]

end Store.Reader

namespace Bytewise

/-- A file open for reading. -/
structure Reader where
  /-- The text of the file. -/
  text : String
  /-- The byte offset up to which the text has been read. -/
  position : Nat

namespace Reader

/-- A file that has just been opened. -/
def start (text : String) : Reader :=
  ⟨text, 0⟩

/-- Go on after some more bytes. -/
def skip (reader : Reader) (bytes : Nat) : Reader :=
  { reader with position := reader.position + bytes }

/-- The text from the byte offset on. -/
def left (reader : Reader) : Except Halt String :=
  slice reader.text reader.position reader.text.utf8ByteSize

/-- The text up to the next line feed, without the line feed and one carriage return before it;
all that is left if there is no line feed. -/
def readLine (reader : Reader) : Except Halt (String × Reader) := do
  let rest ← reader.left
  match findChar? (· == '\n') 0 rest.toList with
  | some index =>
      let line ← slice rest 0 index
      return (String.ofList (Text.dropReturn line.toList), reader.skip (index + 1))
  | none => return (String.ofList (Text.dropReturn rest.toList), reader.skip rest.utf8ByteSize)

/-- All text not read yet. -/
def readRest (reader : Reader) : Except Halt (String × Reader) := do
  let rest ← reader.left
  return (rest, { reader with position := reader.text.utf8ByteSize })

/-- What a reader answers, and the reader after it. -/
def answer (reader : Reader) : Ask → Except Halt (String × Reader)
  | .line => reader.readLine
  | .rest => reader.readRest

/-- What a reader answers when it is asked several times. -/
def answers : Reader → List Ask → Except Halt (List String)
  | _, [] => return []
  | reader, ask :: later => do
      let (text, next) ← reader.answer ask
      return text :: (← answers next later)

/-- The lines up to the first empty one, joined, in at most so many rounds. -/
def joinLines : Nat → Reader → Except Halt String
  | 0, _ => .error .endless
  | rounds + 1, reader => do
      let (line, next) ← reader.readLine
      if line.isEmpty then return ""
      return line ++ (← joinLines rounds next)

/-- The byte offset is where the rest of the text starts. -/
def Leaves (reader : Reader) (rest : List Char) : Prop :=
  ∃ before, reader.text.toList = before ++ rest ∧ String.utf8Len before = reader.position

variable
  {reader : Reader}
  {rest line : List Char}

theorem leaves_start (text : String) : (start text).Leaves text.toList :=
  ⟨[], rfl, rfl⟩

theorem Leaves.left_eq (leaves : reader.Leaves rest) :
    reader.left = .ok (String.ofList rest) := by
  obtain ⟨before, text_eq, position_eq⟩ := leaves
  rw [left, ← position_eq, slice_to_end text_eq]

theorem Leaves.skip (leaves : reader.Leaves (line ++ rest)) :
    (reader.skip (String.utf8Len line)).Leaves rest := by
  obtain ⟨before, text_eq, position_eq⟩ := leaves
  refine ⟨before ++ line, ?_, ?_⟩
  · rw [Reader.skip, text_eq, List.append_assoc]
  · rw [Reader.skip, String.utf8Len_append, position_eq]

/-- Reading a line never fails, and leaves the same text as reading it from the characters. -/
theorem Leaves.readLine_eq (leaves : reader.Leaves rest) :
    ∃ next, reader.readLine = .ok (String.ofList (Text.lineAt rest 0), next) ∧
      next.Leaves (Text.afterFeeds 1 rest) := by
  rw [readLine, leaves.left_eq, Answer.ok_bind, String.toList_ofList]
  by_cases fed : '\n' ∈ rest
  · obtain ⟨line, after, rfl, feedless⟩ := List.eq_append_cons_of_mem fed
    have absent : ∀ char ∈ line, (char == '\n') = false := fun char member =>
      beq_false_of_ne (ne_of_mem_of_not_mem member feedless)
    have found : findChar? (· == '\n') 0 (line ++ '\n' :: after) =
        some (String.utf8Len line) := by
      rw [findChar?_eq_some absent rfl, Nat.zero_add]
    have ended : (reader.skip (String.utf8Len line + 1)).Leaves after := by
      rw [List.append_cons] at leaves
      have skipped := leaves.skip
      rwa [String.utf8Len_append] at skipped
    rw [Text.lineAt_append feedless, Text.afterFeeds_append feedless, Text.afterFeeds_zero]
    refine ⟨_, ?_, ended⟩
    simp only [found, slice_from_start rfl, Answer.ok_bind, String.toList_ofList]
    rfl
  · have absent : ∀ char ∈ rest, (char == '\n') = false := fun char member =>
      beq_false_of_ne (ne_of_mem_of_not_mem member fed)
    have ended : (reader.skip (String.utf8Len rest)).Leaves [] := by
      apply Leaves.skip
      rwa [List.append_nil]
    rw [Text.lineAt_of_not_mem fed, Text.afterFeeds_of_not_mem fed]
    refine ⟨_, ?_, ended⟩
    simp only [findChar?_eq_none absent, String.utf8ByteSize_ofList]
    rfl

theorem Leaves.readRest_eq (leaves : reader.Leaves rest) :
    ∃ next, reader.readRest = .ok (String.ofList rest, next) ∧ next.Leaves [] := by
  rw [readRest, leaves.left_eq, Answer.ok_bind]
  refine ⟨_, rfl, reader.text.toList, (List.append_nil _).symm, ?_⟩
  exact String.utf8Len_toList reader.text

/-- No slice fails, and the answers are those of a reader that holds the characters left. -/
theorem Leaves.answer_eq (leaves : reader.Leaves rest) (ask : Ask) :
    ∃ next, reader.answer ask = .ok ((Store.Reader.answer ⟨rest⟩ ask).1, next) ∧
      next.Leaves (Store.Reader.answer ⟨rest⟩ ask).2.rest := by
  cases ask with
  | line =>
      rw [Store.Reader.answer, Store.Reader.readLine_eq]
      exact leaves.readLine_eq
  | rest => exact leaves.readRest_eq

theorem Leaves.answers_eq (leaves : reader.Leaves rest) (asks : List Ask) :
    reader.answers asks = .ok (Store.Reader.answers ⟨rest⟩ asks) := by
  induction asks generalizing reader rest with
  | nil => rfl
  | cons ask later inductionHypothesis =>
      obtain ⟨next, answer_eq, nextLeaves⟩ := leaves.answer_eq ask
      rw [answers, answer_eq, Answer.ok_bind]
      simp only [inductionHypothesis nextLeaves]
      rfl

/-- Reading lines comes to an end at the first empty one. -/
theorem Leaves.joinLines_eq
    {rounds : Nat}
    (leaves : reader.Leaves rest)
    (enough : (Text.paragraph rest).length < rounds) :
    reader.joinLines rounds = .ok (String.ofList (Text.paragraph rest).flatten) := by
  induction rounds generalizing reader rest with
  | zero => cases enough
  | succ rounds inductionHypothesis =>
      obtain ⟨next, answer_eq, nextLeaves⟩ := leaves.readLine_eq
      rw [Text.paragraph_eq_lineAt rest] at enough ⊢
      rw [joinLines, answer_eq, Answer.ok_bind]
      cases first : Text.lineAt rest 0 with
      | nil => rfl
      | cons char others =>
          rw [first] at enough
          have further := inductionHypothesis nextLeaves (Nat.lt_of_succ_lt_succ enough)
          have visible : ¬(String.ofList (char :: others)).isEmpty = true := by simp
          change (if (String.ofList (char :: others)).isEmpty then _ else _) = _
          rw [if_neg visible, further]
          change Except.ok _ = Except.ok (String.ofList (char :: others ++ _))
          rw [String.ofList_append]

/-- A reader of a file answers its lines in their order, and then, when it is asked for all that
is left, what comes after the lines answered, and from then on nothing; keeping a byte offset, it
never slices the text at another place than a boundary.  So reading it by lines comes to an end
and gives the lines before the first empty one, which without stray carriage returns are the whole
text, line breaks apart, exactly if only line breaks come after them. -/
theorem reader_answers_lines_then_rest
    {store : Store}
    {path text : String}
    (held : store.read path = some text) :
    let line := fun index => String.ofList (Text.lineAt text.toList index)
    let after := fun count => Text.afterFeeds count text.toList
    (∃ reader : Store.Reader, store.openRead path = .ok reader ∧
      (∀ asks, (start text).answers asks = .ok (reader.answers asks)) ∧
      (∀ count, reader.answers (List.replicate count .line) = (List.range count).map line) ∧
      ∀ count later, reader.answers (List.replicate count .line ++ .rest :: later) =
        (List.range count).map line ++ String.ofList (after count) :: later.map fun _ => "") ∧
    ∃ count, (∀ index < count, line index ≠ "") ∧ line count = "" ∧
      let joined := String.join ((List.range count).map line)
      (∀ rounds > count, (start text).joinLines rounds = .ok joined) ∧
      Compare.readText store .legacyLines path = .ok joined ∧
      (Text.ReturnsBeforeFeeds text.toList →
        (joined = Text.stripLineBreaks text ↔ ∀ char ∈ after count, Text.isLineBreak char)) := by
  intro line after
  have leaves := leaves_start text
  refine ⟨⟨⟨text.toList⟩, Store.openRead_of_read held, leaves.answers_eq, ?_, ?_⟩,
    (Text.paragraph text.toList).length, ?_, ?_, ?_⟩
  · intro count
    have answered := Store.Reader.answers_lines text.toList count []
    rwa [List.append_nil, Store.Reader.answers, List.append_nil] at answered
  · intro count later
    rw [Store.Reader.answers_lines, Store.Reader.answers, Store.Reader.answer,
      Store.Reader.readRest, Store.Reader.answers_nil]
  · intro index within
    exact mt String.ofList_eq_empty_iff.mp (Text.lineAt_ne_nil within)
  · exact congrArg String.ofList (Text.lineAt_length_paragraph text.toList)
  · rw [Text.join_lineAt text.toList]
    refine ⟨fun rounds enough => leaves.joinLines_eq enough, ?_, fun returns => ?_⟩
    · rw [Compare.readText_of_read held, ReadMode.seen_legacyLines]
    · rw [← Text.flatten_paragraph_eq_bare_iff returns]
      exact String.ofList_inj

/-- A text with both kinds of line breaks, a blank line, and nothing but line breaks after it: all
of it is read, line breaks apart, and what is left after the first line starts at a boundary
although its line is longer in bytes than in characters. -/
theorem reader_answers_lines_then_rest_accented :
    let text := "é\r\nb\n\r\n\n"
    let store := Store.empty.withFile "a" text
    store.read "a" = some text ∧ Text.ReturnsBeforeFeeds text.toList ∧
      (start text).answers [.line, .rest, .line] = .ok ["é", "b\n\r\n\n", ""] ∧
      Compare.readText store .legacyLines "a" = .ok (Text.stripLineBreaks text) := by
  intro text store
  have held : store.read "a" = some text := by decide +kernel
  have returns : Text.ReturnsBeforeFeeds text.toList := by decide +kernel
  obtain ⟨⟨reader, _, bytewise, _, rest⟩, count, visible, blank, _, readText_eq, whole_iff⟩ :=
    reader_answers_lines_then_rest held
  -- The third line is the first blank one.
  have count_eq : count = 2 := by
    rcases Nat.lt_trichotomy count 2 with fewer | two | more
    · rcases Nat.le_one_iff_eq_zero_or_eq_one.mp (Nat.le_of_lt_succ fewer) with rfl | rfl
      · exact absurd blank (by decide +kernel)
      · exact absurd blank (by decide +kernel)
    · exact two
    · exact absurd (by decide +kernel) (visible 2 more)
  refine ⟨held, returns, ?_, ?_⟩
  · have answered : reader.answers [.line, .rest, .line] = _ := rest 1 [.line]
    rw [bytewise, answered]
    decide +kernel
  · rw [readText_eq, (whole_iff returns).mpr]
    rw [count_eq]
    exact List.all_eq_true.mp (by decide +kernel)

end Reader
end Bytewise
end Baseline
