import Baseline.Proofs.Artifact
import Baseline.Proofs.Compare.All
import Baseline.Proofs.Store.Housed

/-!
# What comparisons alter

Comparing sources alters the entries of their artifacts only, and it neither makes nor
removes directories (`Altered`).  If the sources are no artifacts and the directories
around their artifacts are none either (`Orderly`), every store that comparisons make
of one gives the same answers to a later comparison, apart from what the source's own
artifacts hold.
-/

namespace Baseline

namespace Store

variable {store after : Store} {path content : String}

/-- Removing a file removes no directory. -/
theorem WellFormed.directory_iff_of_removed
    (wellFormed : store.WellFormed)
    (linkless : store.Linkless)
    (removed : store.removeFile path = .ok after)
    (location : Location) :
    after.find? location = some .directory ↔ store.find? location = some .directory := by
  by_cases same : location = .ofPath path
  · obtain ⟨content, held, rfl⟩ := removeFile_eq_ok_iff.mp removed
    rw [read_eq_some_iff, linkless.resolve_eq] at held
    rw [same, held, linkless.resolve_eq, wellFormed.find?_erase_self]
    simp
  · rw [linkless.find?_removed removed same]

/-- Writing a file neither makes nor replaces a directory. -/
theorem Linkless.directory_iff_of_written
    (linkless : store.Linkless)
    (written : store.writeFile path content = .ok after)
    (location : Location) :
    after.find? location = some .directory ↔ store.find? location = some .directory := by
  by_cases same : location = .ofPath path
  · obtain ⟨notDirectory, _, rfl⟩ := writeFile_eq_ok_iff.mp written
    rw [linkless.resolve_eq] at notDirectory ⊢
    rw [same, find?_put_self]
    simp [notDirectory]
  · rw [linkless.find?_written written same]

theorem Linkless.lookupLocation_eq (linkless : store.Linkless) (location : Location) :
    store.lookupLocation location = store.entryAt location := by
  change store.entryAt (store.resolveLocation location) = store.entryAt location
  rw [linkless.resolveLocation_eq]

/-- Whether a write is refused depends on directories in its place, and on whether anything
is around it. -/
theorem Linkless.refusal?_eq_of_alike
    (linkless : store.Linkless)
    (afterLinkless : after.Linkless)
    (directory : after.find? (.ofPath path) = some .directory ↔
      store.find? (.ofPath path) = some .directory)
    (around : (after.entryAt (Location.ofPath path).parent).isNone =
      (store.entryAt (Location.ofPath path).parent).isNone) :
    after.refusal? path = store.refusal? path := by
  simp only [refusal?, linkless.resolve_eq, afterLinkless.resolve_eq, linkless.lookupLocation_eq,
    afterLinkless.lookupLocation_eq, directory, around]

end Store

namespace Compare

section Definitions

variable (options : CompareOptions) (paths : List String)

/-- The location is the one of the reference or of the actual artifact of a source. -/
def IsArtifact (location : Location) : Prop :=
  ∃ path ∈ paths,
    location = .ofPath (options.referencePath path) ∨ location = .ofPath (options.actualPath path)

/-- What comparing sources may have made of a store. -/
structure Altered (store current : Store) : Prop where
  /-- The table of the store is in order. -/
  wellFormed : current.WellFormed
  /-- No entry is a link. -/
  linkless : current.Linkless
  /-- The same capabilities are shown. -/
  surface_eq : current.surface = store.surface
  /-- Only artifacts are altered. -/
  elsewhere {location : Location} :
    ¬IsArtifact options paths location → current.find? location = store.find? location
  /-- The directories are the same. -/
  directory_iff (location : Location) :
    current.find? location = some .directory ↔ store.find? location = some .directory

/-- What is around the location is a directory, or at least no artifact. -/
def Steady (store : Store) (location : Location) : Prop :=
  store.entryAt location.parent = some .directory ∨ ¬IsArtifact options paths location.parent

/-- The references and the actual artifacts of two sources lie at different locations. -/
def Unlike (left right : String) : Prop :=
  Location.ofPath (options.referencePath left) ≠ .ofPath (options.referencePath right) ∧
    Location.ofPath (options.actualPath left) ≠ .ofPath (options.actualPath right)

/-- Comparisons of the sources do not disturb each other. -/
structure Orderly (store : Store) : Prop where
  /-- The table of the store is in order. -/
  wellFormed : store.WellFormed
  /-- No entry is a link. -/
  linkless : store.Linkless
  /-- No source is an artifact. -/
  source {path : String} : path ∈ paths → ¬IsArtifact options paths (.ofPath path)
  /-- No reference is an actual artifact. -/
  apart {left right : String} :
    left ∈ paths → right ∈ paths →
    Location.ofPath (options.referencePath left) ≠ .ofPath (options.actualPath right)
  /-- No two sources share an artifact. -/
  unlike : paths.Pairwise (Unlike options)
  /-- No artifact of a source that is there lies in an artifact. -/
  steady {path : String} :
    path ∈ paths → store.read path ≠ none →
    Steady options paths store (.ofPath (options.referencePath path)) ∧
      Steady options paths store (.ofPath (options.actualPath path))

end Definitions

variable
  {parser : Parser}
  {options : CompareOptions}
  {paths : List String}
  {path target content : String}
  {store current next : Store}
  {result : Except RunError Outcome}

theorem isArtifact_reference (member : path ∈ paths) :
    IsArtifact options paths (.ofPath (options.referencePath path)) :=
  ⟨path, member, .inl rfl⟩

theorem isArtifact_actual (member : path ∈ paths) :
    IsArtifact options paths (.ofPath (options.actualPath path)) :=
  ⟨path, member, .inr rfl⟩

/-! ## What is kept -/

theorem Altered.refl
    (wellFormed : store.WellFormed)
    (linkless : store.Linkless) :
    Altered options paths store store where
  wellFormed := wellFormed
  linkless := linkless
  surface_eq := rfl
  elsewhere _ := rfl
  directory_iff _ := Iff.rfl

theorem Altered.removed
    (altered : Altered options paths store current)
    (artifact : IsArtifact options paths (.ofPath target))
    (removed : current.removeFile target = .ok next) :
    Altered options paths store next where
  wellFormed := altered.wellFormed.removed removed
  linkless := altered.linkless.removed removed
  surface_eq := by
    obtain ⟨_, _, rfl⟩ := Store.removeFile_eq_ok_iff.mp removed
    exact altered.surface_eq
  elsewhere {location} kept := by
    have other : location ≠ .ofPath target := fun same => kept (same ▸ artifact)
    rw [altered.linkless.find?_removed removed other, altered.elsewhere kept]
  directory_iff location :=
    (altered.wellFormed.directory_iff_of_removed altered.linkless removed location).trans
      (altered.directory_iff location)

theorem Altered.written
    (altered : Altered options paths store current)
    (artifact : IsArtifact options paths (.ofPath target))
    (written : current.writeFile target content = .ok next) :
    Altered options paths store next where
  wellFormed := altered.wellFormed.written written
  linkless := altered.linkless.written written
  surface_eq := by
    obtain ⟨_, _, rfl⟩ := Store.writeFile_eq_ok_iff.mp written
    exact altered.surface_eq
  elsewhere {location} kept := by
    have other : location ≠ .ofPath target := fun same => kept (same ▸ artifact)
    rw [altered.linkless.find?_written written other, altered.elsewhere kept]
  directory_iff location :=
    (altered.linkless.directory_iff_of_written written location).trans
      (altered.directory_iff location)

theorem Altered.tidied
    (altered : Altered options paths store current)
    (member : path ∈ paths)
    (removed : Compare.tidied options path current = .ok next) :
    Altered options paths store next := by
  rcases tidied_eq_ok removed with rfl | removed
  · exact altered
  · exact altered.removed (isArtifact_actual member) removed

theorem Altered.compared
    (altered : Altered options paths store current)
    (member : path ∈ paths)
    (comparison : Comparison parser options path current result next) :
    Altered options paths store next := by
  refine comparison.preserves (Altered options paths store) ?_ ?_ ?_ altered
  · exact fun _ _ altered removed => altered.removed (isArtifact_actual member) removed
  · exact fun _ _ _ altered written => altered.written (isArtifact_actual member) written
  · exact fun _ _ _ altered _ _ written => altered.written (isArtifact_reference member) written

/-- Comparing all the sources alters their artifacts only. -/
theorem Altered.comparedAll (altered : Altered options paths store current) :
    Altered options paths store ((compareAll parser options paths).run current).2 :=
  compareAll_preserves _
    (fun _ member _ _ _ comparison altered => altered.compared member comparison) altered

theorem read_ne_none_of_readSource_ne_empty
    {mode : ReadMode}
    (nonempty : readSource store mode path ≠ "") :
    store.read path ≠ none := by
  intro absent
  rw [readSource_eq, absent] at nonempty
  exact nonempty rfl

/-- Sources read as before. -/
theorem Altered.readSource_eq
    (altered : Altered options paths store current)
    (orderly : Orderly options paths store)
    (member : path ∈ paths) :
    readSource current options.readMode path = readSource store options.readMode path :=
  readSource_eq_of_find?_eq orderly.linkless altered.linkless
    (altered.elsewhere (orderly.source member)) options.readMode

theorem Altered.entryAt_parent_eq
    {location : Location}
    (altered : Altered options paths store current)
    (steady : Steady options paths store location) :
    current.entryAt location.parent = store.entryAt location.parent := by
  unfold Steady at steady
  cases around : location.parent with
  | nil => rfl
  | cons name rest =>
      rw [around] at steady
      rcases steady with directory | kept
      · exact ((altered.directory_iff _).mpr directory).trans directory.symm
      · exact altered.elsewhere kept

/-- A write is refused for the same reason as before. -/
theorem Altered.refusal?_eq
    (altered : Altered options paths store current)
    (linkless : store.Linkless)
    (steady : Steady options paths store (.ofPath target)) :
    current.refusal? target = store.refusal? target :=
  linkless.refusal?_eq_of_alike altered.linkless (altered.directory_iff _)
    (congrArg Option.isNone (altered.entryAt_parent_eq steady))

/-- If there is something to compare, writes of the artifacts are refused alike in all
stores that comparisons make of one. -/
theorem Orderly.refusal?_eq
    (orderly : Orderly options paths store)
    (member : path ∈ paths)
    (altered : Altered options paths store current)
    (nextAltered : Altered options paths store next)
    (nonempty : readSource current options.readMode path ≠ "") :
    next.refusal? (options.referencePath path) = current.refusal? (options.referencePath path) ∧
      next.refusal? (options.actualPath path) = current.refusal? (options.actualPath path) := by
  rw [altered.readSource_eq orderly member] at nonempty
  obtain ⟨reference, actual⟩ :=
    orderly.steady member (read_ne_none_of_readSource_ne_empty nonempty)
  rw [altered.refusal?_eq orderly.linkless reference, altered.refusal?_eq orderly.linkless actual,
    nextAltered.refusal?_eq orderly.linkless reference,
    nextAltered.refusal?_eq orderly.linkless actual]
  exact ⟨rfl, rfl⟩

/-! ## Artifacts of different sources -/

/-- The reference of a source is no artifact of other ones. -/
theorem Orderly.reference_kept
    {rest : List String}
    (orderly : Orderly options paths store)
    (member : path ∈ paths)
    (within : ∀ other ∈ rest, other ∈ paths)
    (unlike : ∀ other ∈ rest, Unlike options path other) :
    ¬IsArtifact options rest (.ofPath (options.referencePath path)) := by
  rintro ⟨other, later, same | same⟩
  · exact (unlike other later).1 same
  · exact orderly.apart member (within other later) same

/-- The actual artifact of a source is no artifact of other ones. -/
theorem Orderly.actual_kept
    {rest : List String}
    (orderly : Orderly options paths store)
    (member : path ∈ paths)
    (within : ∀ other ∈ rest, other ∈ paths)
    (unlike : ∀ other ∈ rest, Unlike options path other) :
    ¬IsArtifact options rest (.ofPath (options.actualPath path)) := by
  rintro ⟨other, later, same | same⟩
  · exact orderly.apart (within other later) member same.symm
  · exact (unlike other later).2 same

/-! ## Sources in directories -/

/-- Artifacts beside a source that is no artifact itself are steady if the source lies in
a directory. -/
theorem steady_of_isAt
    {directory location source : Location}
    (kept : ¬IsArtifact options paths source)
    (different : location ≠ source)
    (housed : store.Housed)
    (held : store.find? source = some (.file content))
    (sourceAt : Path.IsAt directory source)
    (artifactAt : Path.IsAt directory location) :
    Steady options paths store location := by
  rcases sourceAt with rfl | ⟨name, rfl⟩
  · -- The source is the directory, so the artifact lies in the source.
    rcases artifactAt with rfl | ⟨other, rfl⟩
    · exact absurd rfl different
    · right
      rwa [Location.parent, List.dropLast_concat]
  · have around := housed _ (Store.mem_of_find?_eq_some held)
    rw [Location.parent, List.dropLast_concat] at around
    rcases artifactAt with rfl | ⟨other, rfl⟩
    · cases location with
      | nil => exact .inl rfl
      | cons first rest => exact .inl (housed _ (Store.mem_of_find?_eq_some around))
    · left
      rwa [Location.parent, List.dropLast_concat]

end Compare
end Baseline
