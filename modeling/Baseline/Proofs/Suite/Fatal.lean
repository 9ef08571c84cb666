import Baseline.Proofs.Compare.Altered
import Baseline.Proofs.Suite.Inputs
import Baseline.Proofs.Suite.Transcript

/-!
# What makes a run fatal

In a store without links, removing, reading and writing an artifact that lies in a directory
fail for one reason only: a directory is in its place.  The artifacts of sources that a scan
finds do lie in directories, and comparisons neither make nor remove any.  So besides a
directory in the place of an artifact, only the parser can end a run early (`Stops`).
-/

namespace Baseline

namespace Store

variable {store : Store} {path content : String} {error : FileError}

/-- The path leads to a name in a directory. -/
def InDirectory (store : Store) (path : String) : Prop :=
  ∃ directory name,
    Location.ofPath path = directory ++ [name] ∧ store.entryAt directory = some .directory

theorem InDirectory.ne_nil (inside : store.InDirectory path) : Location.ofPath path ≠ [] := by
  obtain ⟨directory, name, path_eq, _⟩ := inside
  rw [path_eq]
  exact List.append_ne_nil_of_right_ne_nil _ (List.cons_ne_nil _ _)

theorem InDirectory.entryAt_parent (inside : store.InDirectory path) :
    store.entryAt (Location.ofPath path).parent = some .directory := by
  obtain ⟨directory, name, path_eq, around⟩ := inside
  rw [path_eq, Location.parent, List.dropLast_concat, around]

theorem Linkless.isDirectory_iff
    (linkless : store.Linkless)
    (below : Location.ofPath path ≠ []) :
    store.isDirectory path = .ok true ↔ store.find? (.ofPath path) = some .directory := by
  rw [Scan.isDirectory_eq_ok_true_iff, lookup_eq_entryAt, linkless.resolve_eq,
    entryAt_of_ne_nil below]

/-- What is there and is no file is a directory, and neither removed nor read. -/
theorem Linkless.isDirectory_of_present
    (linkless : store.Linkless)
    (below : Location.ofPath path ≠ [])
    (there : store.present path = true)
    (noFile : store.read path = none) :
    store.isDirectory path = .ok true ∧
      store.removeFile path = .error (.notAFile path) ∧
        store.openRead path = .error (.notAFile path) := by
  have found : store.find? (.ofPath path) = some .directory := by
    rw [← Bool.not_eq_false, present_eq_false_iff, linkless.resolve_eq] at there
    cases found : store.find? (.ofPath path) with
    | none => exact absurd ⟨below, found⟩ there
    | some entry =>
        cases entry with
        | file content =>
            rw [← linkless.resolve_eq] at found
            rw [read_eq_some_iff.mpr found] at noFile
            cases noFile
        | directory => rfl
        | link target => exact absurd found (linkless.find?_ne_link _ _)
  refine ⟨(linkless.isDirectory_iff below).mpr found, ?_⟩
  rw [← linkless.resolve_eq] at found
  simp only [removeFile, openRead, found, and_self]

/-- Only a directory keeps a file in a directory from being written. -/
theorem Linkless.refusal?_inDirectory
    (linkless : store.Linkless)
    (inside : store.InDirectory path)
    (refused : store.refusal? path = some error) :
    error = .isADirectory path ∧ store.isDirectory path = .ok true := by
  have around : (store.lookupLocation (store.resolve path).parent).isNone = false := by
    rw [linkless.lookupLocation_eq, linkless.resolve_eq, inside.entryAt_parent]
    rfl
  rw [refusal?, around, if_neg Bool.false_ne_true] at refused
  split at refused
  next occupied =>
      rw [linkless.resolve_eq] at occupied
      exact ⟨(Option.some.inj refused).symm, (linkless.isDirectory_iff inside.ne_nil).mpr occupied⟩
  next => cases refused

/-! ## Stores with the same directories -/

section Directories

variable {after : Store}

theorem entryAt_directory_iff
    (directories : ∀ location,
      after.find? location = some .directory ↔ store.find? location = some .directory)
    (location : Location) :
    after.entryAt location = some .directory ↔ store.entryAt location = some .directory := by
  cases location with
  | nil => exact iff_of_true rfl rfl
  | cons name rest => exact directories (name :: rest)

theorem Linkless.isDirectory_iff_of_directories
    (linkless : store.Linkless)
    (afterLinkless : after.Linkless)
    (directories : ∀ location,
      after.find? location = some .directory ↔ store.find? location = some .directory)
    (path : String) :
    after.isDirectory path = .ok true ↔ store.isDirectory path = .ok true := by
  rw [Scan.isDirectory_eq_ok_true_iff, Scan.isDirectory_eq_ok_true_iff, lookup_eq_entryAt,
    lookup_eq_entryAt, linkless.resolve_eq, afterLinkless.resolve_eq,
    entryAt_directory_iff directories]

theorem InDirectory.of_directories
    (inside : store.InDirectory path)
    (directories : ∀ location,
      after.find? location = some .directory ↔ store.find? location = some .directory) :
    after.InDirectory path := by
  obtain ⟨directory, name, path_eq, around⟩ := inside
  exact ⟨directory, name, path_eq, (entryAt_directory_iff directories directory).mpr around⟩

end Directories

end Store

namespace Compare

variable
  {parser : Parser}
  {options : CompareOptions}
  {mode : ReadMode}
  {path target : String}
  {store after tidy : Store}
  {error : RunError}

/-- An artifact of an earlier run is removed unless it is a directory. -/
theorem withoutStale_eq_error_of_below
    (linkless : store.Linkless)
    (below : Location.ofPath target ≠ [])
    (stuck : withoutStale store target = .error error) :
    error = .file target (.notAFile target) ∧ store.isDirectory target = .ok true := by
  unfold withoutStale at stuck
  split at stuck
  next there =>
      cases held : store.read target with
      | some content =>
          rw [Store.removeFile_eq_ok_iff.mpr ⟨content, held, rfl⟩] at stuck
          cases stuck
      | none =>
          obtain ⟨directory, refused, _⟩ := linkless.isDirectory_of_present below there held
          rw [refused] at stuck
          exact ⟨(Except.error.inj stuck).symm, directory⟩
  next => cases stuck

/-- A reference is read, or taken for missing, exactly if it is no directory. -/
theorem readReference_eq_error_iff
    (linkless : store.Linkless)
    (below : Location.ofPath target ≠ []) :
    readReference store mode target = .error error ↔
      error = .file target (.notAFile target) ∧ store.isDirectory target = .ok true := by
  cases there : store.present target with
  | false =>
      rw [readReference_of_absent there, linkless.isDirectory_iff below]
      rw [Store.present_eq_false_iff, linkless.resolve_eq] at there
      simp [there.2]
  | true =>
      cases held : store.read target with
      | some content =>
          have notDirectory : store.find? (.ofPath target) ≠ some .directory := by
            rw [Store.read_eq_some_iff, linkless.resolve_eq] at held
            simp [held]
          rw [readReference_of_read held, linkless.isDirectory_iff below]
          simp [notDirectory]
      | none =>
          obtain ⟨directory, _, unread⟩ := linkless.isDirectory_of_present below there held
          have isThere : FileAccess.present store target = true := there
          rw [readReference, if_pos isThere, readText_eq, unread, and_iff_left directory]
          simp only [Except.map, Except.error.injEq, eq_comm]

/-- What can end the comparison of a source with an error, if its artifacts lie in
directories. -/
inductive Stops (parser : Parser) (options : CompareOptions) (path : String) (store : Store) :
    RunError → Prop
  /-- The parser refuses what is read of the source. -/
  | refused {failure : ParseFailure}
      (refusal : parser.parse (readSource store options.readMode path) = .refused failure) :
      Stops parser options path store (.parse path failure)
  /-- What the parser makes of the source has no JSON form. -/
  | unserializable {reason : String}
      (parsed : parser.parse (readSource store options.readMode path) = .unserializable reason) :
      Stops parser options path store (.serialize path reason)
  /-- A directory is in the place of the reference. -/
  | reference
      (directory : store.isDirectory (options.referencePath path) = .ok true) :
      Stops parser options path store
        (.file (options.referencePath path) (.notAFile (options.referencePath path)))
  /-- A directory is in the place of an actual artifact to be removed. -/
  | stale
      (directory : store.isDirectory (options.actualPath path) = .ok true) :
      Stops parser options path store
        (.file (options.actualPath path) (.notAFile (options.actualPath path)))
  /-- A directory is in the place of an actual artifact to be written. -/
  | actual
      (directory : store.isDirectory (options.actualPath path) = .ok true) :
      Stops parser options path store
        (.file (options.actualPath path) (.isADirectory (options.actualPath path)))

theorem stops_of_renderSource
    (refusal : renderSource parser options.indentWidth path
      (readSource store options.readMode path) = .error error) :
    Stops parser options path store error := by
  unfold renderSource at refusal
  split at refusal
  next => cases refusal
  next failure parsed =>
      rw [← Except.error.inj refusal]
      exact .refused parsed
  next reason parsed =>
      rw [← Except.error.inj refusal]
      exact .unserializable parsed

theorem Settlement.stops
    (settlement : Settlement parser options path store (.error error) after)
    (linkless : store.Linkless)
    (reference : store.InDirectory (options.referencePath path))
    (actual : store.InDirectory (options.actualPath path)) :
    Stops parser options path store error := by
  cases settlement with
  | refused nonempty refusal => exact stops_of_renderSource refusal
  | unreadable rendered unread =>
      obtain ⟨rfl, directory⟩ := (readReference_eq_error_iff linkless reference.ne_nil).mp unread
      exact .reference directory
  | uncreated rendered missing unwritten =>
      -- A directory would have kept the reference from being read.
      have refused := Store.writeFile_eq_error_iff.mp unwritten
      obtain ⟨_, directory⟩ := linkless.refusal?_inDirectory reference refused
      have unread : readReference store options.readMode (options.referencePath path) = .error _ :=
        (readReference_eq_error_iff linkless reference.ne_nil).mpr ⟨rfl, directory⟩
      rw [missing] at unread
      cases unread
  | unreported rendered recorded different unwritten =>
      have refused := Store.writeFile_eq_error_iff.mp unwritten
      obtain ⟨rfl, directory⟩ := linkless.refusal?_inDirectory actual refused
      exact .actual directory

/-- Removing the actual artifact of an earlier run makes no difference to what can end the
comparison. -/
theorem Stops.of_tidied
    (stops : Stops parser options path tidy error)
    (source : readSource tidy options.readMode path = readSource store options.readMode path)
    (directories : ∀ target,
      tidy.isDirectory target = .ok true ↔ store.isDirectory target = .ok true) :
    Stops parser options path store error := by
  cases stops with
  | refused refusal => exact .refused (source ▸ refusal)
  | unserializable parsed => exact .unserializable (source ▸ parsed)
  | reference directory => exact .reference ((directories _).mp directory)
  | stale directory => exact .stale ((directories _).mp directory)
  | actual directory => exact .actual ((directories _).mp directory)

/-- If the artifacts of a source lie in directories, its comparison fails only for what it
reads, or for a directory in the place of an artifact. -/
theorem Comparison.stops
    (comparison : Comparison parser options path store (.error error) after)
    (wellFormed : store.WellFormed)
    (linkless : store.Linkless)
    (distinct : options.extensions.clash? = none)
    (reference : store.InDirectory (options.referencePath path))
    (actual : store.InDirectory (options.actualPath path))
    (notActual : Location.ofPath path ≠ .ofPath (options.actualPath path)) :
    Stops parser options path store error := by
  cases comparison with
  | clash clashing =>
      rw [checkExtensions, distinct] at clashing
      cases clashing
  | untidy _ stuck =>
      unfold tidied at stuck
      split at stuck
      next =>
          obtain ⟨rfl, directory⟩ :=
            withoutStale_eq_error_of_below linkless actual.ne_nil stuck
          exact .stale directory
      next => cases stuck
  | @settled tidy _ _ _ removed settlement =>
      have tidyLinkless := tidied_linkless linkless removed
      have directories (location : Location) :
          tidy.find? location = some .directory ↔ store.find? location = some .directory := by
        rcases tidied_eq_ok removed with rfl | removed
        · rfl
        · exact wellFormed.directory_iff_of_removed linkless removed location
      have stops := settlement.stops tidyLinkless (reference.of_directories directories)
        (actual.of_directories directories)
      refine stops.of_tidied ?_ ?_
      · exact readSource_eq_of_find?_eq linkless tidyLinkless
          (tidied_find? linkless removed notActual) options.readMode
      · exact linkless.isDirectory_iff_of_directories tidyLinkless directories

end Compare

namespace Suite

variable {suite : Suite} {store : Store} {paths : List String} {path other : String}

/-- The artifacts of a source that the scan of a directory finds lie in a directory. -/
theorem inDirectory_of_mem_scan
    (wellFormed : store.WellFormed)
    (linkless : store.Linkless)
    (directory : store.isDirectory suite.settings.root = .ok true)
    (found : scan store suite.settings.scanOptions suite.settings.root = .ok paths)
    (member : path ∈ paths)
    (slashless : Extensions.Slashless other) :
    store.InDirectory (Path.artifact path suite.settings.extensions.source other) := by
  obtain ⟨front, stem, splits⟩ :=
    Path.exists_splits_of_hasExtension (hasExtension_of_mem_scan found member)
  have around := Scan.parent_of_mem_scan_directory wellFormed linkless directory found member
  rw [splits.location_eq, Location.parent, List.dropLast_concat] at around
  exact ⟨.ofPath front, Path.nameOf stem other, splits.artifact_eq slashless, around⟩

/-- The actual artifact of a source is not the source. -/
theorem actual_ne_of_hasExtension
    {options : CompareOptions}
    (distinct : options.extensions.clash? = none)
    (slashless : Extensions.Slashless options.extensions.actual)
    (named : Path.hasExtension path options.extensions.source) :
    Location.ofPath path ≠ .ofPath (options.actualPath path) := by
  obtain ⟨front, stem, splits⟩ := Path.exists_splits_of_hasExtension named
  rw [CompareOptions.actualPath, splits.artifact_eq slashless, splits.location_eq]
  intro same
  have names := List.singleton_inj.mp (List.append_cancel_left same)
  exact ((Extensions.clash?_eq_none_iff _).mp distinct).2.1 (Path.nameOf_inj.mp names)

/-- The run of a directory is fatal only if what is read of a source that the scan finds is
refused by the parser or has no JSON form when the source is compared, or if a directory is
in the place of one of its artifacts.  The scan does not fail, and no file or directory is
missed. -/
theorem fatal_run_stopped
    {writers : List Store.Writer}
    (reachable : Store.Reachable store writers)
    (linkless : store.Linkless)
    (distinct : suite.settings.extensions.clash? = none)
    (referenceSlashless : Extensions.Slashless suite.settings.extensions.reference)
    (actualSlashless : Extensions.Slashless suite.settings.extensions.actual)
    (directory : store.isDirectory suite.settings.root = .ok true)
    (fatal : (suite.run.run store).1.verdict.fatal = true) :
    ∃ records path rest middle error,
      suite.Aborts store records error ∧
        scan store suite.settings.scanOptions suite.settings.root =
          .ok (records.map FileRecord.path ++ path :: rest) ∧
        Compare.Compared suite.parser suite.settings.compareOptions store records middle ∧
        (∀ target, middle.isDirectory target = .ok true ↔ store.isDirectory target = .ok true) ∧
        Compare.Stops suite.parser suite.settings.compareOptions path middle error := by
  have wellFormed := reachable.wellFormed
  obtain ⟨records, error, aborts⟩ := fatal_iff_aborts.mp fatal
  cases aborts with
  | unusable clashing =>
      rw [distinct] at clashing
      cases clashing
  | unscanned _ failed =>
      rw [Scan.scan_eq] at failed
      cases failed
  | @stopped _ _ path rest middle last _ found compared failed =>
      have member : path ∈ records.map FileRecord.path ++ path :: rest := by simp
      -- What was compared before the failing source altered artifacts only.
      have ran := Compare.compareAll_eq_none_iff.mpr ⟨rfl, compared⟩
      have initial : Compare.Altered suite.settings.compareOptions (records.map FileRecord.path)
          store store :=
        .refl wellFormed linkless
      have altered : Compare.Altered suite.settings.compareOptions (records.map FileRecord.path)
          store ((Compare.compareAll suite.parser suite.settings.compareOptions _).run store).2 :=
        initial.comparedAll
      rw [ran] at altered
      have inside {extension : String} (slashless : Extensions.Slashless extension) :=
        inDirectory_of_mem_scan wellFormed linkless directory found member slashless
          |>.of_directories altered.directory_iff
      have notActual : Location.ofPath path ≠
          .ofPath (suite.settings.compareOptions.actualPath path) :=
        actual_ne_of_hasExtension distinct actualSlashless (hasExtension_of_mem_scan found member)
      refine ⟨records, path, rest, middle, error, .stopped distinct found compared failed, found,
        compared, linkless.isDirectory_iff_of_directories altered.linkless altered.directory_iff,
        ?_⟩
      exact (Compare.compareFile_run_eq_iff.mp failed).stops altered.wellFormed altered.linkless
        distinct (inside referenceSlashless) (inside actualSlashless) notActual

/-- A run over lists of lines in a directory. -/
def byLine : Suite where
  settings := { root := "root" }
  parser := .lineList

/-- Two sources, and a directory in the place of a reference. -/
def occupied : Store :=
  ((Store.empty.withFile "root/a.js" "x").withFile "root/b.js" "y").withDirectory "root/b.tree"

/-- The first source gets its reference, and the directory ends the run. -/
theorem fatal_run_stopped_occupied :
    Store.Reachable occupied [] ∧ occupied.Linkless ∧ occupied.isDirectory "root" = .ok true ∧
      (byLine.run.run occupied).1.verdict.fatal = true ∧
      ∃ middle,
        Compare.Compared byLine.parser byLine.settings.compareOptions occupied
          [⟨"root/a.js", .created "root/a.tree"⟩] middle ∧
        Compare.Stops byLine.parser byLine.settings.compareOptions "root/b.js" middle
          (.file "root/b.tree" (.notAFile "root/b.tree")) := by
  have reachable : Store.Reachable occupied [] :=
    .withDirectory _ (.withFile _ _ (.withFile _ _ (.empty _)))
  have linkless : occupied.Linkless := by decide +kernel
  have directory : occupied.isDirectory "root" = .ok true := by decide +kernel
  have distinct : byLine.settings.extensions.clash? = none := by decide
  have fatal : (byLine.run.run occupied).1.verdict.fatal = true := by decide +kernel
  obtain ⟨records, path, rest, middle, error, aborts, found, compared, _, stops⟩ :=
    fatal_run_stopped reachable linkless distinct (by decide) (by decide) directory fatal
  have progress_eq := compare_eq_iff_aborts.mpr aborts
  have records_eq : records = [⟨"root/a.js", .created "root/a.tree"⟩] :=
    (congrArg Compare.Progress.records progress_eq).symm.trans (by decide +kernel)
  have error_eq : some error = some (.file "root/b.tree" (.notAFile "root/b.tree")) :=
    (congrArg Compare.Progress.error? progress_eq).symm.trans (by decide +kernel)
  have scanned : scan occupied byLine.settings.scanOptions byLine.settings.root =
      .ok ["root/a.js", "root/b.js"] := by
    decide +kernel
  obtain rfl := Option.some.inj error_eq
  subst records_eq
  obtain ⟨rfl, rfl⟩ : "root/b.js" = path ∧ [] = rest := by
    simpa using Except.ok.inj (scanned.symm.trans found)
  exact ⟨reachable, linkless, directory, fatal, middle, compared, stops⟩

end Suite
end Baseline
