import Baseline.Compare
import Baseline.Proofs.Text.NumberedLines
import Baseline.Store.Access

/-!
# Reading by lines

Whatever a file system keeps in its readers, what they answer line after line follows from two
steps (`ReadsLines`): a line that is ended, and the last line.  They determine all answers
(`ReadsLines.lineAt_eq`), and so the text that reading by lines makes of them
(`readText_legacyLines_eq`).
-/

namespace Baseline

/-- A reader of a store answers the first line of the text and goes on after its line feed. -/
theorem Store.Reader.readLine_eq (text : List Char) :
    readLine ⟨text⟩ = (String.ofList (Text.lineAt text 0), ⟨Text.afterFeeds 1 text⟩) := by
  rw [Text.lineAt_zero, Text.afterFeeds_one]
  rfl

variable
  {σ : Type} [FileAccess σ]
  {system : σ}
  {text : List Char}

namespace FileAccess

/-- The answer to reading a line after some lines have been read. -/
def lineAt (system : σ) (reader : Reader σ) : Nat → Except FileError String
  | 0 => (readLine system reader).1
  | index + 1 => lineAt system (readLine system reader).2 index

/-- Readers that hold a text answer its first line and hold the rest.  A line that is ended
loses one carriage return, and `close` tells what becomes of the last line. -/
structure ReadsLines
    (system : σ)
    (close : List Char → List Char)
    (Holds : Reader σ → List Char → Prop) : Prop where
  /-- An empty last line stays empty. -/
  close_nil : close [] = []
  /-- The line up to a line feed is answered, and what comes after it is left. -/
  readLine_ended {reader : Reader σ} {line rest : List Char} :
    '\n' ∉ line → Holds reader (line ++ '\n' :: rest) →
      (readLine system reader).1 = .ok (String.ofList (Text.dropReturn line)) ∧
        Holds (readLine system reader).2 rest
  /-- A line without a line feed is answered, and nothing is left. -/
  readLine_last {reader : Reader σ} {line : List Char} :
    '\n' ∉ line → Holds reader line →
      (readLine system reader).1 = .ok (String.ofList (close line)) ∧
        Holds (readLine system reader).2 []

namespace ReadsLines

variable
  {close : List Char → List Char}
  {Holds : Reader σ → List Char → Prop}
  {reader : Reader σ}

/-- At the end of the text the lines are empty for ever. -/
theorem lineAt_nil
    (reads : ReadsLines system close Holds)
    (holds : Holds reader [])
    (index : Nat) :
    lineAt system reader index = .ok "" := by
  induction index generalizing reader with
  | zero =>
      rw [lineAt, (reads.readLine_last List.not_mem_nil holds).1, reads.close_nil,
        String.ofList_nil]
  | succ index inductionHypothesis =>
      exact inductionHypothesis (reads.readLine_last List.not_mem_nil holds).2

/-- The answers are the ended lines, then the last line, and then nothing. -/
theorem lineAt_eq
    (reads : ReadsLines system close Holds)
    (holds : Holds reader text)
    (index : Nat) :
    lineAt system reader index =
      .ok (String.ofList
        (((Text.endedLines text).map Text.dropReturn ++
          [close (Text.lastLine text)])[index]?.getD [])) := by
  induction text using Text.line_induction generalizing reader index with
  | unended line feedless =>
      obtain ⟨answer, atEnd⟩ := reads.readLine_last feedless holds
      rw [Text.endedLines_of_not_mem feedless, Text.lastLine_of_not_mem feedless]
      cases index with
      | zero => exact answer
      | succ index => exact reads.lineAt_nil atEnd index
  | ended line rest feedless inductionHypothesis =>
      obtain ⟨answer, further⟩ := reads.readLine_ended feedless holds
      rw [Text.endedLines_append feedless, Text.lastLine_append feedless]
      cases index with
      | zero => exact answer
      | succ index => exact inductionHypothesis further index

end ReadsLines

/-- A reader of a store holds the text that is left. -/
theorem readsLines_store (store : Store) :
    ReadsLines store Text.dropReturn fun (reader : Store.Reader) text => reader.rest = text where
  close_nil := rfl
  readLine_ended := by
    rintro ⟨_⟩ line rest feedless rfl
    change Except.ok (Store.Reader.readLine ⟨line ++ '\n' :: rest⟩).1 = _ ∧
      (Store.Reader.readLine ⟨line ++ '\n' :: rest⟩).2.rest = rest
    rw [Store.Reader.readLine_eq, Text.lineAt_append feedless, Text.afterFeeds_append feedless,
      Text.afterFeeds_zero]
    exact ⟨rfl, rfl⟩
  readLine_last := by
    rintro ⟨line⟩ _ feedless rfl
    change Except.ok (Store.Reader.readLine ⟨line⟩).1 = _ ∧
      (Store.Reader.readLine ⟨line⟩).2.rest = []
    rw [Store.Reader.readLine_eq, Text.lineAt_of_not_mem feedless,
      Text.afterFeeds_of_not_mem feedless]
    exact ⟨rfl, rfl⟩

theorem lineAt_store (store : Store) (text : List Char) (index : Nat) :
    lineAt store (⟨text⟩ : Store.Reader) index =
      .ok (String.ofList
        (((Text.endedLines text).map Text.dropReturn ++
          [Text.dropReturn (Text.lastLine text)])[index]?.getD [])) :=
  (readsLines_store store).lineAt_eq rfl index

end FileAccess

namespace Compare

variable
  {reader : FileAccess.Reader σ}
  {lines : List (List Char)}
  {fuel : Nat}
  {path : String}

/-- The answers up to the first empty one are joined. -/
theorem joinLines_of_lineAt
    (answers : ∀ index, FileAccess.lineAt system reader index =
      .ok (String.ofList (lines[index]?.getD [])))
    (enough : lines.length ≤ fuel) :
    joinLines system fuel reader =
      .ok (String.ofList (lines.takeWhile fun line => !line.isEmpty).flatten) := by
  induction fuel generalizing reader lines with
  | zero =>
      rw [List.eq_nil_of_length_eq_zero (Nat.le_zero.mp enough)]
      rfl
  | succ fuel inductionHypothesis =>
      have first : (FileAccess.readLine system reader).1 =
          .ok (String.ofList (lines[0]?.getD [])) := answers 0
      have later := fun index => answers (index + 1)
      simp only [FileAccess.lineAt] at later
      rw [joinLines]
      simp only [first]
      cases lines with
      | nil => rfl
      | cons line rest =>
          have further := inductionHypothesis later (Nat.le_of_succ_le_succ enough)
          cases line with
          | nil => rfl
          | cons char others =>
              have visible : ¬(String.ofList (char :: others)).isEmpty = true := by simp
              change (if (String.ofList (char :: others)).isEmpty then pure "" else _) = _
              rw [if_neg visible, further, List.takeWhile_cons_of_pos rfl, List.flatten_cons,
                String.ofList_append]
              rfl

theorem readText_legacyLines_eq
    (opened : FileAccess.openRead system path = .ok reader)
    (closes : FileAccess.closeReader system reader = .ok ())
    (answers : ∀ index, FileAccess.lineAt system reader index =
      .ok (String.ofList (lines[index]?.getD [])))
    (enough : lines.length ≤ FileAccess.remaining system reader + 1) :
    readText system .legacyLines path =
      .ok (String.ofList (lines.takeWhile fun line => !line.isEmpty).flatten) := by
  rw [readText, opened]
  change (readOpened system .legacyLines reader >>= _) = _
  rw [readOpened, joinLines_of_lineAt answers enough]
  change (FileAccess.closeReader system reader >>= _) = _
  rw [closes]
  rfl

end Compare
end Baseline
