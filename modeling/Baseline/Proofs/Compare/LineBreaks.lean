import Baseline.Proofs.Compare.Altered
import Baseline.Proofs.Compare.Kept
import Baseline.Proofs.Compare.Mirror
import Baseline.Proofs.LineEndings.Text

/-!
# Line breaks of a reference

How the lines of a reference end makes no difference to a comparison.  If whole files are
read, that is so for all line breaks (`ReadMode.Reflows`); read by lines, a reference stops
at its first empty line, with and without carriage returns at the same one
(`Text.paragraph_addReturns`).  Stores that differ in such a way only are related by `Twin`,
which a comparison keeps (`Twin.mirrors`).
-/

namespace Baseline

namespace Text

variable {char : Char} {text : List Char}

theorem toList_stripLineBreaks_eq (text : String) :
    (stripLineBreaks text).toList = text.toList.filter fun char => char ≠ '\r' ∧ char ≠ '\n' := by
  rw [toList_stripLineBreaks]
  refine List.filter_congr fun char _ => ?_
  rw [Bool.eq_iff_iff]
  simp [isLineBreak]

theorem dropReturn_cons (other : char ≠ '\r') (line : List Char) :
    dropReturn (char :: line) = char :: dropReturn line := by
  cases line with
  | nil => rw [dropReturn, if_neg (by simpa using other)]; rfl
  | cons second rest =>
      rw [dropReturn, dropReturn, List.getLast?_cons_cons]
      split <;> rfl

/-- Every line but the last one gets a carriage return, which is dropped again. -/
theorem map_dropReturn_pieces_addReturns (noReturn : '\r' ∉ text) :
    (pieces '\n' (addReturns text)).map dropReturn = (pieces '\n' text).map dropReturn := by
  induction text with
  | nil => rfl
  | cons char rest inductionHypothesis =>
      obtain ⟨other, restPlain⟩ := List.ne_and_not_mem_of_not_mem_cons noReturn
      have later := inductionHypothesis restPlain
      obtain ⟨first, lines, rest_eq⟩ := List.exists_cons_of_ne_nil (pieces_ne_nil '\n' rest)
      obtain ⟨ended, endedLines, ended_eq⟩ :=
        List.exists_cons_of_ne_nil (pieces_ne_nil '\n' (addReturns rest))
      by_cases isFeed : char = '\n'
      · have returned : pieces '\n' ('\r' :: '\n' :: addReturns rest) =
            ['\r'] :: pieces '\n' (addReturns rest) :=
          pieces_cons_of_ne (by decide) (pieces_separator '\n' _)
        rw [isFeed, addReturns_feed, returned, pieces_separator, List.map_cons, List.map_cons,
          later]
        rfl
      · rw [rest_eq, ended_eq, List.map_cons, List.map_cons] at later
        obtain ⟨sameFirst, sameLines⟩ := List.cons.inj later
        rw [addReturns_cons isFeed, pieces_cons_of_ne isFeed rest_eq,
          pieces_cons_of_ne isFeed ended_eq, List.map_cons, List.map_cons,
          dropReturn_cons other.symm, dropReturn_cons other.symm, sameFirst, sameLines]

/-- A text without carriage returns has the same first paragraph with them. -/
theorem paragraph_addReturns (noReturn : '\r' ∉ text) :
    paragraph (addReturns text) = paragraph text := by
  rw [paragraph, paragraph, map_dropReturn_pieces_addReturns noReturn]

end Text

/-- The texts differ in their line breaks only; if they are read by lines, one of them has
no carriage returns and the other one has them before all line feeds. -/
def ReadMode.Reflows (mode : ReadMode) (first second : String) : Prop :=
  match mode with
  | .verbatim =>
      first.toList.filter (fun char => char ≠ '\r' ∧ char ≠ '\n') =
        second.toList.filter fun char => char ≠ '\r' ∧ char ≠ '\n'
  | .legacyLines =>
      ('\r' ∉ first.toList ∧ second = Text.withReturns first) ∨
        ('\r' ∉ second.toList ∧ first = Text.withReturns second)

theorem ReadMode.seen_withReturns {content : String} (noReturn : '\r' ∉ content.toList) :
    ReadMode.legacyLines.seen (Text.withReturns content) = ReadMode.legacyLines.seen content := by
  rw [seen_legacyLines, seen_legacyLines, Text.withReturns, String.toList_ofList,
    Text.paragraph_addReturns noReturn]

/-- A mode sees the same of such texts up to line breaks. -/
theorem ReadMode.Reflows.stripLineBreaks_seen
    {mode : ReadMode}
    {first second : String}
    (reflows : mode.Reflows first second) :
    Text.stripLineBreaks (mode.seen first) = Text.stripLineBreaks (mode.seen second) := by
  cases mode with
  | verbatim =>
      apply String.toList_injective
      rw [Text.toList_stripLineBreaks_eq, Text.toList_stripLineBreaks_eq]
      exact reflows
  | legacyLines =>
      rcases reflows with ⟨noReturn, rfl⟩ | ⟨noReturn, rfl⟩
      · rw [seen_withReturns noReturn]
      · rw [seen_withReturns noReturn]

namespace Compare

variable
  {parser : Parser}
  {options : CompareOptions}
  {mode : ReadMode}
  {path target content first second : String}
  {store next after last : Store}
  {location : Location}

/-- The stores have no links and differ in the content of one file at most, of which a mode
sees the same up to line breaks. -/
structure Twin (mode : ReadMode) (path : String) (store next : Store) : Prop where
  /-- No entry of the first store is a link. -/
  linkless : store.Linkless
  /-- No entry of the second store is a link. -/
  nextLinkless : next.Linkless
  /-- All other entries are the same. -/
  outside_eq : next.outside [.ofPath path] = store.outside [.ofPath path]
  /-- The file is there in both stores, and the same is seen of it. -/
  held :
    ∃ first second,
      store.read path = some first ∧
        next.read path = some second ∧
          Text.stripLineBreaks (mode.seen first) = Text.stripLineBreaks (mode.seen second)

theorem Twin.put
    (linkless : store.Linkless)
    (held : store.read path = some first)
    (same : Text.stripLineBreaks (mode.seen first) = Text.stripLineBreaks (mode.seen second)) :
    Twin mode path store (store.put (store.resolve path) (.file second)) where
  linkless := linkless
  nextLinkless := linkless.put (by simp)
  outside_eq := by
    rw [linkless.resolve_eq]
    exact Store.outside_put List.mem_cons_self
  held := ⟨first, second, held, linkless.read_put path second, same⟩

/-! ## Same answers -/

theorem Twin.find?_eq
    (twin : Twin mode path store next)
    (other : location ≠ .ofPath path) :
    next.find? location = store.find? location :=
  Store.find?_eq_of_outside_eq twin.outside_eq (by simpa using other)

/-- A directory, or something at all, is at the same locations. -/
theorem Twin.entries_alike (twin : Twin mode path store next) (location : Location) :
    (next.find? location = some .directory ↔ store.find? location = some .directory) ∧
      (next.entryAt location).isNone = (store.entryAt location).isNone := by
  by_cases here : location = .ofPath path
  · obtain ⟨first, second, held, nextHeld, _⟩ := twin.held
    rw [Store.read_eq_some_iff, twin.linkless.resolve_eq, ← here] at held
    rw [Store.read_eq_some_iff, twin.nextLinkless.resolve_eq, ← here] at nextHeld
    refine ⟨by simp [held, nextHeld], ?_⟩
    cases location with
    | nil => rfl
    | cons name rest =>
        rw [Store.entryAt_of_ne_nil (List.cons_ne_nil _ _),
          Store.entryAt_of_ne_nil (List.cons_ne_nil _ _), held, nextHeld]
        rfl
  · have same := twin.find?_eq here
    exact ⟨by rw [same], by rw [Store.entryAt_eq_of_find?_eq same]⟩

theorem Twin.refusal?_eq (twin : Twin mode path store next) (target : String) :
    next.refusal? target = store.refusal? target :=
  twin.linkless.refusal?_eq_of_alike twin.nextLinkless (twin.entries_alike _).1
    (twin.entries_alike _).2

theorem Twin.readReference_eq (twin : Twin mode path store next) :
    readReference next mode path = readReference store mode path := by
  obtain ⟨first, second, held, nextHeld, same⟩ := twin.held
  rw [readReference_of_read held, readReference_of_read nextHeld, same]

/-! ## Same changes -/

/-- Removing another file. -/
theorem Twin.removed
    (twin : Twin mode path store next)
    (other : Location.ofPath path ≠ .ofPath target)
    (removed : store.removeFile target = .ok after)
    (nextRemoved : next.removeFile target = .ok last) :
    Twin mode path after last where
  linkless := twin.linkless.removed removed
  nextLinkless := twin.nextLinkless.removed nextRemoved
  outside_eq := by
    obtain ⟨_, _, rfl⟩ := Store.removeFile_eq_ok_iff.mp removed
    obtain ⟨_, _, rfl⟩ := Store.removeFile_eq_ok_iff.mp nextRemoved
    have notMember : Location.ofPath target ∉ [Location.ofPath path] := by simpa using other.symm
    rw [twin.linkless.resolve_eq, twin.nextLinkless.resolve_eq,
      Store.outside_erase_of_not_mem notMember, Store.outside_erase_of_not_mem notMember,
      twin.outside_eq]
  held := by
    rw [twin.linkless.read_eq (twin.linkless.removed removed)
        (twin.linkless.find?_removed removed other),
      twin.nextLinkless.read_eq (twin.nextLinkless.removed nextRemoved)
        (twin.nextLinkless.find?_removed nextRemoved other)]
    exact twin.held

/-- Writing the file itself, or another one. -/
theorem Twin.written
    (twin : Twin mode path store next)
    (written : store.writeFile target content = .ok after)
    (nextWritten : next.writeFile target content = .ok last) :
    Twin mode path after last where
  linkless := twin.linkless.written written
  nextLinkless := twin.nextLinkless.written nextWritten
  outside_eq := by
    obtain ⟨_, _, rfl⟩ := Store.writeFile_eq_ok_iff.mp written
    obtain ⟨_, _, rfl⟩ := Store.writeFile_eq_ok_iff.mp nextWritten
    rw [twin.linkless.resolve_eq, twin.nextLinkless.resolve_eq]
    by_cases here : Location.ofPath target ∈ [Location.ofPath path]
    · rw [Store.outside_put here, Store.outside_put here, twin.outside_eq]
    · rw [Store.outside_put_of_not_mem here, Store.outside_put_of_not_mem here, twin.outside_eq]
  held := by
    by_cases here : Location.ofPath path = .ofPath target
    · have same {store after : Store} (linkless : store.Linkless)
          (written : store.writeFile target content = .ok after) :
          after.read path = some content := by
        rw [← linkless.read_written written, Store.read, Store.read,
          (linkless.written written).resolve_eq, (linkless.written written).resolve_eq, here]
      exact ⟨content, content, same twin.linkless written, same twin.nextLinkless nextWritten, rfl⟩
    · rw [twin.linkless.read_eq (twin.linkless.written written)
          (twin.linkless.find?_written written here),
        twin.nextLinkless.read_eq (twin.nextLinkless.written nextWritten)
          (twin.nextLinkless.find?_written nextWritten here)]
      exact twin.held

/-- Stores that differ in line breaks of the reference give the same answers about its
source. -/
theorem Twin.mirrors
    (reference : Location.ofPath (options.referencePath path) ≠ .ofPath path)
    (artifacts : Location.ofPath (options.referencePath path) ≠
      .ofPath (options.actualPath path)) :
    Mirrors options path (Twin options.readMode (options.referencePath path)) where
  linkless := Twin.linkless
  nextLinkless := Twin.nextLinkless
  actual twin := twin.find?_eq artifacts.symm
  source twin :=
    readSource_eq_of_find?_eq twin.linkless twin.nextLinkless (twin.find?_eq reference.symm)
      options.readMode
  reference := Twin.readReference_eq
  refusal twin _ _ := twin.refusal?_eq _
  removed twin removed nextRemoved := twin.removed artifacts removed nextRemoved
  written twin _ written nextWritten := twin.written written nextWritten

/-- Giving a reference other line breaks changes neither the result of a comparison nor
what it leaves of all other entries. -/
theorem reference_line_breaks_ignored
    (parser : Parser)
    (linkless : store.Linkless)
    (apart : Apart options path store)
    (held : store.read (options.referencePath path) = some first)
    (reflows : options.readMode.Reflows first second) :
    let reference := store.resolve (options.referencePath path)
    let run := (compareFile parser options path).run store
    let reflowed := (compareFile parser options path).run (store.put reference (.file second))
    reflowed.1 = run.1 ∧
      (∀ other, store.resolve other ≠ reference → reflowed.2.read other = run.2.read other) ∧
        reflowed.2.outside [reference] = run.2.outside [reference] := by
  intro reference run reflowed
  have twin : Twin options.readMode (options.referencePath path) store
      (store.put reference (.file second)) :=
    .put linkless held reflows.stripLineBreaks_seen
  have notSource := apart.reference
  have notActual := apart.artifacts
  rw [linkless.resolve_eq, linkless.resolve_eq] at notSource notActual
  have comparison : Comparison parser options path store run.1 run.2 :=
    compareFile_run_eq_iff.mp rfl
  obtain ⟨last, mirrored, twinAfter⟩ :=
    (Twin.mirrors notSource notActual).comparison twin comparison
  have reflowed_eq : reflowed = (run.1, last) := mirrored.run_eq
  have reference_eq : reference = .ofPath (options.referencePath path) := linkless.resolve_eq _
  rw [reflowed_eq, reference_eq]
  refine ⟨rfl, fun other elsewhere => ?_, twinAfter.outside_eq⟩
  rw [linkless.resolve_eq] at elsewhere
  exact twinAfter.linkless.read_eq twinAfter.nextLinkless (twinAfter.find?_eq elsewhere)

/-- The rendering of the source and a remark after a blank line, which reading by lines does
not reach; all lines end with a line feed. -/
def remarked : String := "\"x\"\n\nkept since May\n"

/-- With carriage returns in the reference, reading by lines stops at the same blank line, and
the source passes too. -/
theorem reference_line_breaks_ignored_remarked :
    (edited remarked).Linkless ∧ Apart byLines "a.js" (edited remarked) ∧
      (edited remarked).read "a.tree" = some remarked ∧
      ReadMode.legacyLines.Reflows remarked (Text.withReturns remarked) ∧
      ((compareFile echo byLines "a.js").run (edited remarked)).1 = .ok .passed ∧
      ((compareFile echo byLines "a.js").run
        ((edited remarked).put ["a.tree"] (.file (Text.withReturns remarked)))).1 =
          .ok .passed := by
  have linkless : (edited remarked).Linkless := by decide +kernel
  have apart : Apart byLines "a.js" (edited remarked) :=
    ⟨by decide +kernel, by decide +kernel, by decide +kernel⟩
  have held : (edited remarked).read "a.tree" = some remarked := by decide +kernel
  have reflows : ReadMode.legacyLines.Reflows remarked (Text.withReturns remarked) :=
    .inl ⟨by decide +kernel, rfl⟩
  have passed : ((compareFile echo byLines "a.js").run (edited remarked)).1 = .ok .passed := by
    decide +kernel
  have reference_eq : (edited remarked).resolve "a.tree" = ["a.tree"] := by decide +kernel
  obtain ⟨same, _⟩ := reference_line_breaks_ignored echo linkless apart held reflows
  refine ⟨linkless, apart, held, reflows, passed, ?_⟩
  rw [← reference_eq]
  exact same.trans passed

end Compare
end Baseline
