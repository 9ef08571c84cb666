import Baseline.Compare
import Baseline.Proofs.Json.Lines
import Baseline.Proofs.Store.Files
import Baseline.Proofs.Text.Recorded

/-!
# What a mode reads

In a store, what is read of a file depends on its content and the mode only: all of
it, or its first paragraph.  Of a recorded rendering both modes read the same text up
to line breaks, because it has no blank line at which reading by lines would stop.
-/

namespace Baseline

open Text (isLineBreak)

namespace Store.Reader

/-- The lines not read yet up to the first empty one, joined; at most `fuel` of
them. -/
def joined : Nat → Reader → String
  | 0, _ => ""
  | fuel + 1, reader =>
      if reader.readLine.1.isEmpty then ""
      else reader.readLine.1 ++ joined fuel reader.readLine.2

/-- With enough fuel, the lines that are read are the first paragraph. -/
theorem joined_eq
    {text : List Char}
    {fuel : Nat}
    (enough : text.length < fuel) :
    joined fuel ⟨text⟩ = String.ofList (Text.paragraph text).flatten := by
  induction fuel generalizing text with
  | zero => cases enough
  | succ fuel inductionHypothesis =>
      rw [joined, Text.paragraph_eq]
      by_cases empty : (Text.dropReturn (text.takeWhile (· != '\n'))).isEmpty = true
      · rw [if_pos (by simpa [readLine] using empty), if_pos empty]
        rfl
      · have nonempty : text ≠ [] := by
          rintro rfl
          exact empty rfl
        have shorter : ((text.dropWhile (· != '\n')).drop 1).length < fuel := by
          have atMost := (List.dropWhile_sublist (· != '\n') (l := text)).length_le
          have positive := List.length_pos_iff.mpr nonempty
          rw [List.length_drop]
          omega
        rw [if_neg (by simpa [readLine] using empty), if_neg empty, List.flatten_cons,
          String.ofList_append, ← inductionHypothesis shorter]
        rfl

end Store.Reader

/-- What a mode reads of a file with a content. -/
def ReadMode.seen (mode : ReadMode) (content : String) : String :=
  match mode with
  | .verbatim => content
  | .legacyLines => Store.Reader.joined (content.toList.length + 1) ⟨content.toList⟩

theorem ReadMode.seen_legacyLines (content : String) :
    ReadMode.legacyLines.seen content =
      String.ofList (Text.paragraph content.toList).flatten :=
  Store.Reader.joined_eq (Nat.lt_succ_self _)

/-- Ended lines that are not blank all belong to the first paragraph. -/
theorem Json.Lined.flatten_paragraph {text : List Char} (lined : Json.Lined text) :
    (Text.paragraph text).flatten = Json.bare text := by
  induction lined with
  | nil => rfl
  | @line line rest nonempty visible _ inductionHypothesis =>
      have bare_line : Json.bare (line ++ '\n' :: rest) = line ++ Json.bare rest := by
        rw [Json.bare_append, Json.bare_eq_self visible]
        rfl
      rw [Text.paragraph_line visible nonempty, List.flatten_cons, inductionHypothesis, bare_line]

/-- Up to line breaks, both modes read the whole of a recorded rendering. -/
theorem ReadMode.stripLineBreaks_seen
    (mode : ReadMode)
    {value : Json}
    (wellFormed : value.WellFormed)
    (indent : Nat) :
    Text.stripLineBreaks (mode.seen (value.canonicalize indent ++ "\n")) =
      Text.stripLineBreaks (value.canonicalize indent) := by
  have unended : Text.stripLineBreaks (value.canonicalize indent ++ "\n") =
      Text.stripLineBreaks (value.canonicalize indent) := by
    apply String.toList_injective
    simp [isLineBreak]
  cases mode with
  | verbatim => exact unended
  | legacyLines =>
      have lined := Json.lined_canonicalize wellFormed indent
      rw [seen_legacyLines, lined.flatten_paragraph, ← unended]
      apply String.toList_injective
      simp [Json.bare]

/-- The content holds something besides line breaks, before its first empty line if it is
read by lines. -/
def ReadMode.Records (mode : ReadMode) (content : String) : Prop :=
  match mode with
  | .verbatim => Text.IsRecorded content
  | .legacyLines =>
      ∃ line ∈ Text.paragraph content.toList, ∃ char ∈ line, char ≠ '\r' ∧ char ≠ '\n'

theorem ReadMode.isRecorded_seen_iff {mode : ReadMode} {content : String} :
    Text.IsRecorded (mode.seen content) ↔ mode.Records content := by
  cases mode with
  | verbatim => rfl
  | legacyLines =>
      rw [seen_legacyLines, Text.IsRecorded, String.toList_ofList, Records]
      simp only [List.mem_flatten]
      constructor
      · rintro ⟨char, ⟨line, inParagraph, member⟩, visible⟩
        exact ⟨line, inParagraph, char, member, visible⟩
      · rintro ⟨line, inParagraph, char, member, visible⟩
        exact ⟨char, ⟨line, inParagraph, member⟩, visible⟩

/-- What a mode sees recorded is recorded. -/
theorem ReadMode.Records.isRecorded
    {mode : ReadMode}
    {content : String}
    (records : mode.Records content) :
    Text.IsRecorded content := by
  cases mode with
  | verbatim => exact records
  | legacyLines =>
      obtain ⟨line, inParagraph, char, member, visible⟩ := records
      exact ⟨char, Text.subset_of_mem_paragraph inParagraph member, visible⟩

/-- In both modes a recorded rendering counts as recorded. -/
theorem ReadMode.records_canonicalize
    (mode : ReadMode)
    {value : Json}
    (wellFormed : value.WellFormed)
    (indent : Nat) :
    mode.Records (value.canonicalize indent ++ "\n") := by
  rw [← isRecorded_seen_iff, ← Text.stripLineBreaks_isEmpty_iff,
    stripLineBreaks_seen mode wellFormed]
  simpa using Json.stripLineBreaks_canonicalize_ne_empty wellFormed indent

namespace Compare

variable {store : Store} {mode : ReadMode} {path content : String}

theorem joinLines_eq (store : Store) (fuel : Nat) (reader : Store.Reader) :
    joinLines store fuel reader = .ok (reader.joined fuel) := by
  induction fuel generalizing reader with
  | zero => rfl
  | succ fuel inductionHypothesis =>
      rw [joinLines, Store.Reader.joined]
      change (if reader.readLine.1.isEmpty then pure "" else
        (joinLines store fuel reader.readLine.2).map (reader.readLine.1 ++ ·)) = _
      rw [inductionHypothesis]
      split <;> rfl

theorem readOpened_eq (store : Store) (mode : ReadMode) (text : List Char) :
    readOpened store mode (⟨text⟩ : Store.Reader) = .ok (mode.seen (String.ofList text)) := by
  cases mode with
  | verbatim => rfl
  | legacyLines =>
      rw [readOpened, joinLines_eq, ReadMode.seen, String.toList_ofList]
      rfl

/-- A file is read as its content is seen; anything else is not read. -/
theorem readText_eq (store : Store) (mode : ReadMode) (path : String) :
    readText store mode path =
      (store.openRead path).map fun reader => mode.seen (String.ofList reader.rest) := by
  rw [readText]
  change (store.openRead path).bind _ = _
  cases store.openRead path with
  | error error => rfl
  | ok reader =>
      obtain ⟨text⟩ := reader
      rw [Except.bind, readOpened_eq]
      rfl

theorem readText_of_read (held : store.read path = some content) :
    readText store mode path = .ok (mode.seen content) := by
  rw [readText_eq, Store.openRead_of_read held]
  change Except.ok (mode.seen (String.ofList content.toList)) = _
  rw [String.ofList_toList]

theorem readText_of_read_eq_none (absent : store.read path = none) :
    ∃ error, readText store mode path = .error error := by
  rw [readText_eq, Store.openRead]
  split
  next held found =>
      rw [Store.read_eq_some_iff.mpr found] at absent
      cases absent
  next => exact ⟨_, rfl⟩
  next => exact ⟨_, rfl⟩

/-- The text of a source is what the mode sees of the file, if there is one. -/
theorem readSource_eq (store : Store) (mode : ReadMode) (path : String) :
    readSource store mode path = ((store.read path).map mode.seen).getD "" := by
  unfold readSource
  cases held : store.read path with
  | none =>
      obtain ⟨error, unread⟩ := readText_of_read_eq_none held
      rw [unread]
      exact ite_self ""
  | some content =>
      have there : FileAccess.present store path = true :=
        Store.present_of_find? (Store.read_eq_some_iff.mp held)
      rw [if_pos there, readText_of_read held]
      rfl

theorem readReference_of_read (held : store.read path = some content) :
    readReference store mode path =
      .ok (if (Text.stripLineBreaks (mode.seen content)).isEmpty then none
        else some (Text.stripLineBreaks (mode.seen content))) := by
  have there : FileAccess.present store path = true :=
    Store.present_of_find? (Store.read_eq_some_iff.mp held)
  rw [readReference, if_pos there, readText_of_read held]

/-- A reference is taken for missing exactly if nothing is recorded. -/
theorem readReference_eq_none_iff (held : store.read path = some content) :
    readReference store mode path = .ok none ↔ ¬mode.Records content := by
  rw [readReference_of_read held, ← ReadMode.isRecorded_seen_iff,
    ← Text.stripLineBreaks_isEmpty_iff]
  cases (Text.stripLineBreaks (mode.seen content)).isEmpty <;> simp

theorem readReference_of_absent (absent : store.present path = false) :
    readReference store mode path = .ok none := by
  have nothing : ¬FileAccess.present store path = true := by
    rw [show FileAccess.present store path = false from absent]
    exact Bool.false_ne_true
  rw [readReference, if_neg nothing]

/-- The file that records a value is read as the canonical text of the value. -/
theorem readReference_of_record
    {value : Json}
    {indent : Nat}
    (wellFormed : value.WellFormed)
    (held : store.read path = some (value.canonicalize indent ++ "\n")) :
    readReference store mode path =
      .ok (some (Text.stripLineBreaks (value.canonicalize indent))) := by
  have nonempty := Json.stripLineBreaks_canonicalize_ne_empty wellFormed indent
  rw [readReference_of_read held, ReadMode.stripLineBreaks_seen _ wellFormed,
    if_neg (by simpa using nonempty)]

/-! ## Without links -/

section Linkless

variable {after : Store}

/-- What is read of a source depends on the entry of its location only. -/
theorem readSource_eq_of_find?_eq
    (linkless : store.Linkless)
    (afterLinkless : after.Linkless)
    (same : after.find? (.ofPath path) = store.find? (.ofPath path))
    (mode : ReadMode) :
    readSource after mode path = readSource store mode path := by
  rw [readSource_eq, readSource_eq, linkless.read_eq afterLinkless same]

/-- What is read of a reference depends on the entry of its location only. -/
theorem readReference_eq_of_find?_eq
    (linkless : store.Linkless)
    (afterLinkless : after.Linkless)
    (same : after.find? (.ofPath path) = store.find? (.ofPath path))
    (mode : ReadMode) :
    readReference after mode path = readReference store mode path := by
  have present_eq : FileAccess.present after path = FileAccess.present store path :=
    linkless.present_eq afterLinkless same
  rw [readReference, readReference, present_eq, readText_eq, readText_eq,
    linkless.openRead_eq afterLinkless same]

end Linkless

end Compare
end Baseline
