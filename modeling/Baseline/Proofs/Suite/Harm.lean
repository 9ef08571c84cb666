import Baseline.Proofs.Suite.Folder
import Baseline.Proofs.Suite.Inputs

/-!
# Extensions that do harm

If extensions without slashes do not keep files apart, there is a store in which a run
does harm: it removes a source or a recorded reference as the actual artifact of a
source, or it creates a reference that the next scan takes for a source.  So such
extensions are harmless exactly if they keep files apart, which without separators is to say
that none of them ends in a dot and another one (`harmless_iff_separated`).
-/

namespace Baseline
namespace Extensions

open Baseline.Path (artifact dotted hasExtension nameOf nameOf_inj)
open Scan (IsNamed)
open Store (IsListing filePath folder)

/-- A run in a directory with a parser that refuses exclamation marks. -/
def suite (extensions : Extensions) : Suite where
  settings := { root := "root", extensions }
  parser := .lineList

variable
  {extensions : Extensions}
  {stem : List Char}
  {name content : String}
  {files : List (String × String)}

theorem filePath_eq (name : String) : filePath name = "root/" ++ name := by
  rw [filePath, Path.join, if_neg (by decide)]
  rfl

theorem artifact_filePath (stem : List Char) (source other : String) :
    artifact (filePath (nameOf stem source)) source other = filePath (nameOf stem other) := by
  have path_eq : (filePath (nameOf stem source)).toList =
      "root/".toList ++ stem ++ dotted source := by
    rw [filePath_eq, String.toList_append, Path.toList_nameOf, List.append_assoc]
  apply String.toList_injective
  rw [Path.toList_artifact path_eq, filePath_eq, String.toList_append, Path.toList_nameOf,
    List.append_assoc]

/-! ## The first comparison -/

theorem actualPath_eq (extensions : Extensions) (stem : List Char) :
    extensions.suite.settings.compareOptions.actualPath
        (filePath (nameOf stem extensions.source)) =
      filePath (nameOf stem extensions.actual) :=
  artifact_filePath stem extensions.source extensions.actual

theorem referencePath_eq (extensions : Extensions) (stem : List Char) :
    extensions.suite.settings.compareOptions.referencePath
        (filePath (nameOf stem extensions.source)) =
      filePath (nameOf stem extensions.reference) :=
  artifact_filePath stem extensions.source extensions.reference

theorem checkExtensions_eq (distinct : extensions.clash? = none) :
    Compare.checkExtensions extensions = .ok () := by
  rw [Compare.checkExtensions, distinct]

theorem readSource_of_read
    {store : Store}
    {path : String}
    (held : store.read path = some content) :
    Compare.readSource store .verbatim path = content := by
  rw [Compare.readSource_eq, held]
  rfl

theorem settlement_of_refused
    {store : Store}
    {path : String}
    (extensions : Extensions)
    (held : store.read path = some "!") :
    Compare.Settlement .lineList extensions.suite.settings.compareOptions path store
      (.error (.parse path ⟨"unexpected `!`", none⟩)) store := by
  have text_eq : Compare.readSource store extensions.suite.settings.compareOptions.readMode path =
      "!" :=
    readSource_of_read held
  refine .refused ?_ ?_
  · rw [text_eq]
    decide
  · rw [text_eq]
    rfl

theorem exists_rendered
    {store : Store}
    {path : String}
    (extensions : Extensions)
    (held : store.read path = some "x") :
    ∃ rendering,
      Compare.Rendered .lineList extensions.suite.settings.compareOptions path store rendering := by
  have text_eq : Compare.readSource store extensions.suite.settings.compareOptions.readMode path =
      "x" :=
    readSource_of_read held
  obtain ⟨value, parsed⟩ : ∃ value, Parser.lineList.parse "x" = .value value := ⟨_, rfl⟩
  refine ⟨_, ?_, value, ?_, rfl⟩
  · rw [text_eq]
    decide
  · rw [text_eq]
    exact parsed

/-- If the first source is refused, the run ends; before, the actual artifact of the
source is removed. -/
theorem after_of_refused
    {rest : List (String × String)}
    (distinct : extensions.clash? = none)
    (listing : IsListing ((nameOf stem extensions.source, "!") :: rest))
    (named : hasExtension (nameOf stem extensions.source) extensions.source)
    (stale : (nameOf stem extensions.actual, content) ∈ rest) :
    extensions.suite.after (folder ((nameOf stem extensions.source, "!") :: rest)) =
      (folder ((nameOf stem extensions.source, "!") :: rest)).erase
        ["root", nameOf stem extensions.actual] := by
  obtain ⟨_, sourceActual, _⟩ := extensions.clash?_eq_none_iff.mp distinct
  obtain ⟨later, found⟩ : ∃ later, scan
      (folder ((nameOf stem extensions.source, "!") :: rest))
      extensions.suite.settings.scanOptions extensions.suite.settings.root =
        .ok (filePath (nameOf stem extensions.source) :: later) :=
    ⟨_, Scan.scan_folder_cons listing named⟩
  have removed := Store.removeFile_folder listing (List.mem_cons_of_mem _ stale)
  have held := Store.read_folder_erase_of_ne listing List.mem_cons_self
    (mt nameOf_inj.mp sourceActual)
  rw [← actualPath_eq] at removed
  have ran := (Compare.Comparison.settled (checkExtensions_eq distinct)
    (Compare.tidied_of_removed rfl removed) (settlement_of_refused extensions held)).run_eq
  rw [Suite.after, Suite.run_state_eq, Suite.compare_state_of_distinct distinct found]
  exact congrArg Prod.snd (Compare.compareAll_run_of_error later ran)

/-- A run creates the reference of the only source. -/
theorem after_of_created
    (distinct : extensions.clash? = none)
    (listing : IsListing [(nameOf stem extensions.source, "x")])
    (referenceProper : Location.IsProper (nameOf stem extensions.reference))
    (actualProper : Location.IsProper (nameOf stem extensions.actual))
    (named : hasExtension (nameOf stem extensions.source) extensions.source) :
    ∃ text, extensions.suite.after (folder [(nameOf stem extensions.source, "x")]) =
      folder [(nameOf stem extensions.source, "x"), (nameOf stem extensions.reference, text)] := by
  obtain ⟨sourceReference, sourceActual, _⟩ := extensions.clash?_eq_none_iff.mp distinct
  have found : scan (folder [(nameOf stem extensions.source, "x")])
      extensions.suite.settings.scanOptions extensions.suite.settings.root =
        .ok [filePath (nameOf stem extensions.source)] :=
    Scan.scan_folder_cons listing named
  have absent {other : String} (different : extensions.source ≠ other) :
      nameOf stem other ∉ [(nameOf stem extensions.source, "x")].map Prod.fst := by
    simpa [nameOf_inj] using Ne.symm different
  have unreported := Store.present_folder_eq_false actualProper (absent sourceActual)
  have unrecorded := Store.present_folder_eq_false referenceProper (absent sourceReference)
  obtain ⟨rendering, rendered⟩ :=
    exists_rendered extensions (Store.read_folder listing List.mem_cons_self)
  have written := Store.writeFile_folder referenceProper (absent sourceReference)
    (rendering ++ "\n")
  rw [← actualPath_eq] at unreported
  rw [← referencePath_eq] at unrecorded written
  have ran := (Compare.Comparison.settled (checkExtensions_eq distinct)
    (Compare.tidied_of_absent unreported)
    (.created rendered (Compare.readReference_of_absent unrecorded) written)).run_eq
  refine ⟨rendering ++ "\n", ?_⟩
  rw [Suite.after, Suite.run_state_eq, Suite.compare_state_of_distinct distinct found]
  exact congrArg Prod.snd (Compare.compareAll_run_of_ok [] ran)

/-! ## The harm done -/

theorem mem_scan_folder
    (extensions : Extensions)
    (listing : IsListing files)
    (member : (name, content) ∈ files)
    (named : hasExtension name extensions.source) :
    ∃ paths,
      scan (folder files) extensions.suite.settings.scanOptions
          extensions.suite.settings.root = .ok paths ∧
        filePath name ∈ paths := by
  refine ⟨_, Scan.scan_folder listing _, List.mem_map.mpr ⟨(name, content), ?_, rfl⟩⟩
  exact List.mem_filter.mpr ⟨member, named⟩

theorem Harmless.spares
    (harmless : extensions.Harmless)
    (listing : IsListing files) :
    extensions.suite.SparesInputs (folder files) :=
  harmless extensions.suite (folder files) [] rfl rfl (Store.folder_reachable listing)
    (Store.folder_linkless files)

/-- A run would remove a source that is named as the actual artifact of another. -/
theorem Harmless.actual_unnamed
    (harmless : extensions.Harmless)
    (distinct : extensions.clash? = none)
    (sourceProper : Location.IsProper (nameOf stem extensions.source))
    (actualProper : Location.IsProper (nameOf stem extensions.actual))
    (named : hasExtension (nameOf stem extensions.source) extensions.source) :
    hasExtension (nameOf stem extensions.actual) extensions.source = false := by
  rw [Bool.eq_false_iff]
  intro artifactNamed
  obtain ⟨_, sourceActual, _⟩ := extensions.clash?_eq_none_iff.mp distinct
  have different : nameOf stem extensions.source ≠ nameOf stem extensions.actual :=
    mt nameOf_inj.mp sourceActual
  have listing : IsListing
      [(nameOf stem extensions.source, "!"), (nameOf stem extensions.actual, "x")] := by
    refine ⟨?_, ?_⟩
    · simp [sourceProper, actualProper]
    · simp [different]
  obtain ⟨paths, found, member⟩ := mem_scan_folder extensions listing
    (List.mem_cons_of_mem _ List.mem_cons_self) artifactNamed
  have kept := (harmless.spares listing).sources found member
  rw [after_of_refused distinct listing named List.mem_cons_self,
    Store.read_folder_erase_self listing (List.mem_cons_of_mem _ List.mem_cons_self),
    Store.read_folder listing (List.mem_cons_of_mem _ List.mem_cons_self)] at kept
  cases kept

/-- A run would remove the recorded reference of a source that is the actual artifact
of another. -/
theorem Harmless.apart
    {leftStem rightStem : List Char}
    (harmless : extensions.Harmless)
    (distinct : extensions.clash? = none)
    (leftProper : Location.IsProper (nameOf leftStem extensions.source))
    (rightProper : Location.IsProper (nameOf rightStem extensions.source))
    (artifactProper : Location.IsProper (nameOf rightStem extensions.actual))
    (leftNamed : hasExtension (nameOf leftStem extensions.source) extensions.source)
    (rightNamed : hasExtension (nameOf rightStem extensions.source) extensions.source) :
    nameOf leftStem extensions.reference ≠ nameOf rightStem extensions.actual := by
  intro equal
  obtain ⟨sourceReference, sourceActual, referenceActual⟩ :=
    extensions.clash?_eq_none_iff.mp distinct
  -- With one stem the reference and the actual extension would be the same.
  have sources_ne : nameOf rightStem extensions.source ≠ nameOf leftStem extensions.source := by
    intro same
    have stems := List.append_cancel_right (String.ofList_injective same)
    exact referenceActual (nameOf_inj.mp (stems ▸ equal))
  have right_ne : nameOf rightStem extensions.source ≠ nameOf rightStem extensions.actual :=
    mt nameOf_inj.mp sourceActual
  have left_ne : nameOf leftStem extensions.source ≠ nameOf rightStem extensions.actual :=
    equal ▸ mt nameOf_inj.mp sourceReference
  have listing : IsListing
      [(nameOf rightStem extensions.source, "!"), (nameOf leftStem extensions.source, "x"),
        (nameOf rightStem extensions.actual, "x")] := by
    refine ⟨?_, ?_⟩
    · simp [leftProper, rightProper, artifactProper]
    · simp [sources_ne, right_ne, left_ne]
  have recorded := List.mem_cons_of_mem (nameOf leftStem extensions.source, "x")
    (List.mem_cons_self (a := (nameOf rightStem extensions.actual, "x")) (l := []))
  obtain ⟨paths, found, member⟩ := mem_scan_folder extensions listing
    (List.mem_cons_of_mem _ List.mem_cons_self) leftNamed
  have reference_eq := (referencePath_eq extensions leftStem).trans (congrArg filePath equal)
  have held := Store.read_folder listing (List.mem_cons_of_mem _ recorded)
  have kept := (harmless.spares listing).references found member (reference_eq ▸ held)
    ⟨'x', by decide, by decide, by decide⟩
  rw [reference_eq, after_of_refused distinct listing rightNamed recorded,
    Store.read_folder_erase_self listing (List.mem_cons_of_mem _ recorded)] at kept
  cases kept

/-- The next scan would find a reference that is named as a source. -/
theorem Harmless.reference_unnamed
    (harmless : extensions.Harmless)
    (distinct : extensions.clash? = none)
    (sourceProper : Location.IsProper (nameOf stem extensions.source))
    (referenceProper : Location.IsProper (nameOf stem extensions.reference))
    (actualProper : Location.IsProper (nameOf stem extensions.actual))
    (named : hasExtension (nameOf stem extensions.source) extensions.source) :
    hasExtension (nameOf stem extensions.reference) extensions.source = false := by
  rw [Bool.eq_false_iff]
  intro artifactNamed
  obtain ⟨sourceReference, _, _⟩ := extensions.clash?_eq_none_iff.mp distinct
  have different : nameOf stem extensions.source ≠ nameOf stem extensions.reference :=
    mt nameOf_inj.mp sourceReference
  have before : IsListing [(nameOf stem extensions.source, "x")] := by
    refine ⟨?_, ?_⟩
    · simp [sourceProper]
    · simp
  obtain ⟨text, after_eq⟩ :=
    after_of_created distinct before referenceProper actualProper named
  have later : IsListing
      [(nameOf stem extensions.source, "x"), (nameOf stem extensions.reference, text)] := by
    refine ⟨?_, ?_⟩
    · simp [sourceProper, referenceProper]
    · simp [different]
  obtain ⟨paths, found, member⟩ := mem_scan_folder extensions later
    (List.mem_cons_of_mem _ List.mem_cons_self) artifactNamed
  have again := (harmless.spares before).rescanned
  have first : scan (folder [(nameOf stem extensions.source, "x")])
      extensions.suite.settings.scanOptions extensions.suite.settings.root =
        .ok [filePath (nameOf stem extensions.source)] :=
    Scan.scan_folder_cons before named
  rw [after_eq, found, first] at again
  rw [Except.ok.inj again, List.mem_singleton] at member
  have same := congrArg Location.ofPath member
  rw [Store.ofPath_filePath sourceProper, Store.ofPath_filePath referenceProper] at same
  exact different (List.cons.inj (List.cons.inj same).2).1.symm

/-! ## Harmless extensions -/

/-- Harmless extensions without slashes keep files apart. -/
theorem Harmless.separated
    (harmless : extensions.Harmless)
    (distinct : extensions.clash? = none)
    (referenceSlashless : Slashless extensions.reference)
    (actualSlashless : Slashless extensions.actual) :
    extensions.Separated := by
  refine ⟨?_, ?_, ?_⟩
  · intro path named
    obtain ⟨directory, stem, splits⟩ := Path.exists_splits_of_hasExtension named
    rw [splits.artifact_eq referenceSlashless, IsNamed, List.getLast?_concat]
    exact harmless.reference_unnamed distinct splits.proper
      (splits.artifact_proper referenceSlashless) (splits.artifact_proper actualSlashless)
      splits.named
  · intro path named
    obtain ⟨directory, stem, splits⟩ := Path.exists_splits_of_hasExtension named
    rw [splits.artifact_eq actualSlashless, IsNamed, List.getLast?_concat]
    exact harmless.actual_unnamed distinct splits.proper (splits.artifact_proper actualSlashless)
      splits.named
  · intro left right leftNamed rightNamed equal
    obtain ⟨_, leftStem, leftSplits⟩ := Path.exists_splits_of_hasExtension leftNamed
    obtain ⟨_, rightStem, rightSplits⟩ := Path.exists_splits_of_hasExtension rightNamed
    rw [leftSplits.artifact_eq referenceSlashless, rightSplits.artifact_eq actualSlashless] at equal
    exact harmless.apart distinct leftSplits.proper rightSplits.proper
      (rightSplits.artifact_proper actualSlashless) leftSplits.named rightSplits.named
      (List.singleton_inj.mp (List.append_inj_right' equal rfl))

/-- Extensions that keep files apart are harmless, and extensions without slashes that
are accepted are harmless in no other case.  Accepted extensions without separators are harmless
exactly if none of them ends in a dot and another one. -/
theorem harmless_iff_separated (extensions : Extensions) :
    (extensions.Separated → extensions.Harmless) ∧
      (extensions.clash? = none → Slashless extensions.reference → Slashless extensions.actual →
        (extensions.Harmless ↔ extensions.Separated)) ∧
      (extensions.clash? = none → Plain extensions.source → Plain extensions.reference →
        Plain extensions.actual → (extensions.Harmless ↔ extensions.SuffixFree)) := by
  have harmless_iff (distinct : extensions.clash? = none)
      (referenceSlashless : Slashless extensions.reference)
      (actualSlashless : Slashless extensions.actual) :
      extensions.Harmless ↔ extensions.Separated :=
    ⟨fun harmless => harmless.separated distinct referenceSlashless actualSlashless,
      Separated.harmless⟩
  refine ⟨Separated.harmless, harmless_iff, ?_⟩
  intro distinct sourcePlain referencePlain actualPlain
  rw [harmless_iff distinct referencePlain.slashless actualPlain.slashless]
  exact separated_iff_suffixFree sourcePlain referencePlain actualPlain

/-- The default extensions are harmless. -/
theorem default_harmless : ({} : Extensions).Harmless :=
  ((harmless_iff_separated {}).2.2 rfl (by decide +kernel) (by decide +kernel)
    (by decide +kernel)).mpr (by decide +kernel)

/-- The extensions `js`, `tree` and `x.js` are accepted, and a run over two sources
removes one of them as the actual artifact of the other. -/
theorem removes_source :
    let extensions : Extensions := { actual := "x.js" }
    let store := folder [("a.js", "a"), ("a.x.js", "b")]
    extensions.clash? = none ∧
      Store.Reachable store [] ∧
        store.Linkless ∧
          scan store extensions.suite.settings.scanOptions "root" =
              .ok ["root/a.js", "root/a.x.js"] ∧
            store.read "root/a.x.js" = some "b" ∧
              (extensions.suite.after store).read "root/a.x.js" = none := by
  refine ⟨rfl, Store.folder_reachable (by decide), Store.folder_linkless _, ?_, ?_, ?_⟩
  · decide +kernel
  · decide +kernel
  · decide +kernel

end Extensions
end Baseline
