import Baseline.Proofs.Compare.Frame

/-!
# References that are kept

A comparison creates a reference if it sees none, and what it sees depends on the mode:
of a reference that is read by lines, the first paragraph.  So a reference is overwritten
exactly if what the mode sees of it holds nothing but line breaks.
-/

namespace Baseline
namespace Compare

variable
  {parser : Parser}
  {options : CompareOptions}
  {path content : String}
  {store after : Store}
  {result : Except RunError Outcome}

/-- A comparison leaves a reference as it is if the mode sees something recorded in it,
and creates it anew if not, unless the comparison is skipped or fails. -/
theorem recorded_reference_kept
    (linkless : store.Linkless)
    (apart : Apart options path store)
    (held : store.read (options.referencePath path) = some content)
    (ran : (compareFile parser options path).run store = (result, after)) :
    (options.readMode.Records content →
        after.read (options.referencePath path) = some content ∧
          ∀ reference, result ≠ .ok (.created reference)) ∧
      ∀ outcome, result = .ok outcome → outcome ≠ .skipped →
        (outcome = .created (options.referencePath path) ↔ ¬options.readMode.Records content) := by
  have standing : Standing options path (some (.file content)) store :=
    ⟨linkless, apart, Store.read_eq_some_iff.mp held⟩
  have comparison := compareFile_run_eq_iff.mp ran
  refine ⟨fun records => ?_, ?_⟩
  · have uncreated := standing.ne_created_of_records comparison records
    exact ⟨(standing.compared comparison (uncreated _)).read_eq, uncreated⟩
  · rintro outcome rfl compared
    exact standing.created_iff comparison compared

/-- The options for reading by lines. -/
def byLines : CompareOptions where
  readMode := .legacyLines

/-- A store with a source and a reference that was edited by hand. -/
def edited (content : String) : Store :=
  (Store.empty.withFile "a.js" "x").withFile "a.tree" content

/-- A blank line after the recorded text does no harm. -/
theorem recorded_reference_kept_blank_after :
    (edited "[1]\n\n").Linkless ∧ Apart byLines "a.js" (edited "[1]\n\n") ∧
      (edited "[1]\n\n").read "a.tree" = some "[1]\n\n" ∧
      ReadMode.legacyLines.Records "[1]\n\n" ∧
      ∃ after,
        (compareFile echo byLines "a.js").run (edited "[1]\n\n") =
          (.ok (.mismatched "a.actual"), after) ∧
        after.read "a.tree" = some "[1]\n\n" := by
  have linkless : (edited "[1]\n\n").Linkless := by decide +kernel
  have apart : Apart byLines "a.js" (edited "[1]\n\n") :=
    ⟨by decide +kernel, by decide +kernel, by decide +kernel⟩
  have held : (edited "[1]\n\n").read "a.tree" = some "[1]\n\n" := by decide +kernel
  have records : ReadMode.legacyLines.Records "[1]\n\n" :=
    ⟨"[1]".toList, by decide, '1', by decide, by decide, by decide⟩
  have ran : (compareFile echo byLines "a.js").run (edited "[1]\n\n") =
      (.ok (.mismatched "a.actual"), _) :=
    Prod.ext (by decide +kernel) rfl
  obtain ⟨kept, _⟩ := recorded_reference_kept linkless apart held ran
  exact ⟨linkless, apart, held, records, _, ran, (kept records).1⟩

/-- A blank line before the recorded text hides it: the reference is overwritten. -/
theorem reference_after_blank_line_overwritten :
    Store.Reachable (edited "\n[1]\n") [] ∧ (edited "\n[1]\n").Linkless ∧
      byLines.extensions.clash? = none ∧ Apart byLines "a.js" (edited "\n[1]\n") ∧
      (edited "\n[1]\n").read "a.tree" = some "\n[1]\n" ∧
      Text.IsRecorded "\n[1]\n" ∧
      ((compareFile echo byLines "a.js").run (edited "\n[1]\n")).1 = .ok (.created "a.tree") ∧
      ((compareFile echo byLines "a.js").run (edited "\n[1]\n")).2.read "a.tree" =
        some "\"x\"\n" :=
  ⟨.withFile _ _ (.withFile _ _ (.empty _)), by decide +kernel, by decide,
    ⟨by decide +kernel, by decide +kernel, by decide +kernel⟩, by decide +kernel,
    ⟨'1', by decide, by decide, by decide⟩, by decide +kernel, by decide +kernel⟩

end Compare
end Baseline
