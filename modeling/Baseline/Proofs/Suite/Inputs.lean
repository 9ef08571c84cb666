import Baseline.Proofs.Compare.All
import Baseline.Proofs.Compare.Separation

/-!
# What a run does to its inputs

A run may create references and write or remove actual artifacts.  If the extensions
keep files apart, these are never sources and never references that were recorded
before, so a run spares its inputs (`Extensions.Separated.harmless`).
-/

namespace Baseline

namespace Suite

/-- The store that a run leaves. -/
def after (suite : Suite) (store : Store) : Store :=
  (suite.run.run store).2

/-- A run leaves the sources that its scan finds and their recorded references as they
were, and the same sources are found again. -/
structure SparesInputs (suite : Suite) (store : Store) : Prop where
  /-- No source is changed. -/
  sources {paths : List String} {path : String} :
    scan store suite.settings.scanOptions suite.settings.root = .ok paths →
    path ∈ paths →
    (suite.after store).read path = store.read path
  /-- No recorded reference is changed. -/
  references {paths : List String} {path content : String} :
    scan store suite.settings.scanOptions suite.settings.root = .ok paths →
    path ∈ paths →
    store.read (suite.settings.compareOptions.referencePath path) = some content →
    Text.IsRecorded content →
    (suite.after store).read (suite.settings.compareOptions.referencePath path) = some content
  /-- A scan finds the same sources again. -/
  rescanned :
    scan (suite.after store) suite.settings.scanOptions suite.settings.root =
      scan store suite.settings.scanOptions suite.settings.root

end Suite

namespace Extensions

/-- With the extensions every run over a store without links that reads whole files
spares its inputs. -/
def Harmless (extensions : Extensions) : Prop :=
  ∀ (suite : Suite) (store : Store) (writers : List Store.Writer),
    suite.settings.extensions = extensions →
    suite.settings.readMode = .verbatim →
    Store.Reachable store writers →
    store.Linkless →
    suite.SparesInputs store

end Extensions

namespace Compare

variable
  {parser : Parser}
  {options : CompareOptions}
  {path : String}
  {store current next : Store}
  {result : Except RunError Outcome}

/-- What a run may have made of a store: what a scan sees of it and the recorded
references of sources are as they were. -/
structure Spared (options : CompareOptions) (store current : Store) : Prop where
  /-- The table of the store is in order. -/
  wellFormed : current.WellFormed
  /-- No entry is a link. -/
  linkless : current.Linkless
  /-- A scan sees the same. -/
  visible_eq : Scan.visible options.extensions.source current =
    Scan.visible options.extensions.source store
  /-- No recorded reference is changed. -/
  references {path content : String} :
    Path.hasExtension path options.extensions.source →
    store.read (options.referencePath path) = some content →
    Text.IsRecorded content →
    current.read (options.referencePath path) = some content

theorem Spared.refl
    (wellFormed : store.WellFormed)
    (linkless : store.Linkless) :
    Spared options store store where
  wellFormed := wellFormed
  linkless := linkless
  visible_eq := rfl
  references _ held _ := held

/-- Actual artifacts can be removed. -/
theorem Spared.removed
    (spared : Spared options store current)
    (separated : options.extensions.Separated)
    (named : Path.hasExtension path options.extensions.source)
    (removed : current.removeFile (options.actualPath path) = .ok next) :
    Spared options store next where
  wellFormed := spared.wellFormed.removed removed
  linkless := spared.linkless.removed removed
  visible_eq := by
    rw [Scan.visible_removed spared.wellFormed spared.linkless (separated.actual_unnamed named)
      removed, spared.visible_eq]
  references {other content} otherNamed held recorded := by
    have apart : Location.ofPath (options.referencePath other) ≠
        .ofPath (options.actualPath path) :=
      separated.apart otherNamed named
    rw [spared.linkless.read_eq (spared.linkless.removed removed)
      (spared.linkless.find?_removed removed apart)]
    exact spared.references otherNamed held recorded

/-- Files that are neither sources nor recorded references can be written. -/
theorem Spared.written
    {target text : String}
    (spared : Spared options store current)
    (unnamed : Scan.IsNamed options.extensions.source (.ofPath target) = false)
    (other : ∀ path content, Path.hasExtension path options.extensions.source →
      current.read (options.referencePath path) = some content → Text.IsRecorded content →
      Location.ofPath (options.referencePath path) ≠ .ofPath target)
    (written : current.writeFile target text = .ok next) :
    Spared options store next where
  wellFormed := spared.wellFormed.written written
  linkless := spared.linkless.written written
  visible_eq := by
    rw [Scan.visible_written spared.wellFormed spared.linkless unnamed written, spared.visible_eq]
  references named held recorded := by
    have earlier := spared.references named held recorded
    have same := spared.linkless.find?_written written (other _ _ named earlier recorded)
    rw [spared.linkless.read_eq (spared.linkless.written written) same]
    exact earlier

/-- A comparison of a source spares the inputs. -/
theorem Spared.compared
    (spared : Spared options store current)
    (separated : options.extensions.Separated)
    (verbatim : options.readMode = .verbatim)
    (named : Path.hasExtension path options.extensions.source)
    (comparison : Comparison parser options path current result next) :
    Spared options store next := by
  refine comparison.preserves (Spared options store) ?_ ?_ ?_ spared
  · intro earlier later spared removed
    exact spared.removed separated named removed
  · intro earlier later text spared written
    exact spared.written (separated.actual_unnamed named)
      (fun _ _ otherNamed _ _ => separated.apart otherNamed named) written
  · intro earlier later text spared missing _ written
    refine spared.written (separated.reference_unnamed named) ?_ written
    -- A recorded reference at the same place would not have been missing.
    intro other content _ held recorded same
    rw [verbatim] at missing
    have here : earlier.read (options.referencePath path) =
        earlier.read (options.referencePath other) := by
      rw [Store.read, Store.read, spared.linkless.resolve_eq, spared.linkless.resolve_eq, same]
      rfl
    exact (readReference_eq_none_iff (here.trans held)).mp missing recorded

end Compare

namespace Suite

variable {suite : Suite} {store : Store}

/-- A scan finds files that have the extension of sources. -/
theorem hasExtension_of_mem_scan
    {paths : List String}
    {path : String}
    (found : scan store suite.settings.scanOptions suite.settings.root = .ok paths)
    (member : path ∈ paths) :
    Path.hasExtension path suite.settings.extensions.source := by
  rw [Scan.scan_eq] at found
  rw [← Except.ok.inj found] at member
  exact (Scan.mem_sourceAt.mp (Scan.mem_sourceAt_of_mem_walk member)).2.2

/-- A run spares the inputs if the extensions keep files apart. -/
theorem spared_after
    (separated : suite.settings.extensions.Separated)
    (verbatim : suite.settings.readMode = .verbatim)
    (wellFormed : store.WellFormed)
    (linkless : store.Linkless) :
    Compare.Spared suite.settings.compareOptions store (suite.after store) := by
  have initial : Compare.Spared suite.settings.compareOptions store store :=
    .refl wellFormed linkless
  rw [after, run_state_eq]
  cases clash : suite.settings.extensions.clash? with
  | some clash' =>
      rw [compare_state_of_clash clash]
      exact initial
  | none =>
      have found := Scan.scan_eq store suite.settings.scanOptions suite.settings.root
      rw [compare_state_of_distinct clash found]
      refine Compare.compareAll_preserves _ ?_ initial
      intro path member current result next comparison spared
      exact spared.compared separated verbatim (hasExtension_of_mem_scan found member) comparison

theorem sparesInputs_of_spared
    (wellFormed : store.WellFormed)
    (linkless : store.Linkless)
    (spared : Compare.Spared suite.settings.compareOptions store (suite.after store)) :
    suite.SparesInputs store where
  sources found member :=
    Scan.read_eq_of_visible_eq wellFormed linkless spared.wellFormed spared.linkless
      spared.visible_eq (hasExtension_of_mem_scan found member)
  references found member held recorded :=
    spared.references (hasExtension_of_mem_scan found member) held recorded
  rescanned := by
    have same : Scan.visible suite.settings.scanOptions.sourceExtension (suite.after store) =
        Scan.visible suite.settings.scanOptions.sourceExtension store :=
      spared.visible_eq
    exact Scan.scan_eq_of_visible_eq wellFormed linkless spared.wellFormed spared.linkless same
      suite.settings.root

end Suite

/-- Extensions that keep files apart are harmless. -/
theorem Extensions.Separated.harmless
    {extensions : Extensions}
    (separated : extensions.Separated) :
    extensions.Harmless := by
  rintro suite store writers rfl verbatim reachable linkless
  have wellFormed := reachable.wellFormed
  exact Suite.sparesInputs_of_spared wellFormed linkless
    (Suite.spared_after separated verbatim wellFormed linkless)

end Baseline
