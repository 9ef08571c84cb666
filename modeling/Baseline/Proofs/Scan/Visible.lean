import Baseline.Proofs.Artifact
import Baseline.Proofs.Scan.Walk

/-!
# What a scan takes notice of

A scan asks for directories and for files whose names have the source extension;
other files are `hidden` from it.  So two stores that differ in hidden files only
have the same scans (`walk_visible`), and so they keep if hidden files are written
or removed.
-/

namespace Baseline
namespace Scan

variable
  {store after : Store}
  {options : ScanOptions}
  {extension path : String}
  {location : Location}
  {entry : Entry}

/-- The last name of the location has the extension. -/
def IsNamed (extension : String) (location : Location) : Bool :=
  location.getLast?.any fun name => Path.hasExtension name extension

/-- The entry is no file, or its name has the extension. -/
def isVisible (extension : String) (pair : Location × Entry) : Bool :=
  !pair.2.isFile || IsNamed extension pair.1

/-- The store without the files that a scan takes no notice of. -/
def visible (extension : String) (store : Store) : Store where
  entries := store.entries.filter (isVisible extension)

theorem isNamed_ofPath (named : Path.hasExtension path extension) :
    IsNamed extension (.ofPath path) := by
  obtain ⟨directory, name, _, nameNamed, path_eq, _⟩ := Path.exists_name_of_hasExtension named
  rw [IsNamed, path_eq, List.getLast?_concat]
  exact nameNamed

/-! ## Entries found in the visible store -/

theorem mem_visible :
    (location, entry) ∈ (visible extension store).entries ↔
      (location, entry) ∈ store.entries ∧ isVisible extension (location, entry) :=
  List.mem_filter

theorem visible_wellFormed (wellFormed : store.WellFormed) :
    (visible extension store).WellFormed where
  distinct := wellFormed.distinct.sublist (List.filter_sublist.map Prod.fst)
  proper member := wellFormed.proper (mem_visible.mp member).1
  target_proper member := wellFormed.target_proper (mem_visible.mp member).1

theorem visible_linkless (linkless : store.Linkless) : (visible extension store).Linkless :=
  fun location target member => linkless location target (mem_visible.mp member).1

theorem find?_visible
    (wellFormed : store.WellFormed)
    (shown : isVisible extension (location, entry)) :
    (visible extension store).find? location = some entry ↔
      store.find? location = some entry := by
  rw [(visible_wellFormed wellFormed).find?_eq_some_iff, wellFormed.find?_eq_some_iff, mem_visible,
    and_iff_left shown]

theorem lookup_visible
    (wellFormed : store.WellFormed)
    (linkless : store.Linkless)
    (shown : isVisible extension (.ofPath path, entry)) :
    (visible extension store).lookup path = some entry ↔ store.lookup path = some entry := by
  have resolve_eq : (visible extension store).resolve path = store.resolve path := by
    rw [linkless.resolve_eq, (visible_linkless linkless).resolve_eq]
  by_cases root : store.resolve path = []
  · rw [Store.lookup_of_resolve_eq_nil root, Store.lookup_of_resolve_eq_nil (resolve_eq.trans root)]
  · rw [Store.lookup_of_resolve_ne_nil root,
      Store.lookup_of_resolve_ne_nil (resolve_eq ▸ root), resolve_eq, linkless.resolve_eq]
    exact find?_visible wellFormed shown

theorem sourceAt_visible
    (wellFormed : store.WellFormed)
    (linkless : store.Linkless) :
    sourceAt (visible options.sourceExtension store) options path =
      sourceAt store options path := by
  have same
      (named : Path.hasExtension path options.sourceExtension)
      (content : String) :
      (visible options.sourceExtension store).lookup path = some (.file content) ↔
        store.lookup path = some (.file content) := by
    apply lookup_visible wellFormed linkless
    rw [isVisible, isNamed_ofPath named, Bool.or_true]
  by_cases source : (∃ content, store.lookup path = some (.file content)) ∧
      Path.hasExtension path options.sourceExtension
  · obtain ⟨⟨content, held⟩, named⟩ := source
    rw [sourceAt_of_source held named, sourceAt_of_source ((same named content).mpr held) named]
  · have unnamed (content : String) (held : store.lookup path = some (.file content)) :
        Path.hasExtension path options.sourceExtension = false :=
      Bool.eq_false_iff.mpr fun named => source ⟨⟨content, held⟩, named⟩
    rw [sourceAt_of_not_source unnamed, sourceAt_of_not_source]
    intro content held
    rw [Bool.eq_false_iff]
    exact fun named => source ⟨⟨content, (same named content).mp held⟩, named⟩

/-! ## Walks over the visible entries -/

/-- Walks that find nothing and enter no directory can be left out. -/
theorem walkEach_filter
    {α : Type}
    {step : String → List String → List String × List String}
    {keep : α → Bool}
    {child : α → Option String}
    (entries : List α)
    (idle : ∀ entry ∈ entries, keep entry = false → ∀ path ∈ child entry, ∀ visited,
      step path visited = ([], visited))
    (visited : List String) :
    walkEach step ((entries.filter keep).filterMap child) visited =
      walkEach step (entries.filterMap child) visited := by
  induction entries generalizing visited with
  | nil => rfl
  | cons entry rest inductionHypothesis =>
      obtain ⟨idleNow, idleLater⟩ := List.forall_mem_cons.mp idle
      have later := inductionHypothesis idleLater
      cases kept : keep entry with
      | true =>
          rw [List.filter_cons_of_pos kept]
          cases led : child entry with
          | none => rw [List.filterMap_cons_none led, List.filterMap_cons_none led, later]
          | some path =>
              rw [List.filterMap_cons_some led, List.filterMap_cons_some led, walkEach_cons,
                walkEach_cons, later]
      | false =>
          rw [List.filter_cons_of_neg (by simp [kept])]
          cases led : child entry with
          | none => rw [List.filterMap_cons_none led, later]
          | some path =>
              rw [List.filterMap_cons_some led, walkEach_cons, idleNow kept path led, later,
                List.nil_append]

/-- The path of an entry of a directory; none for what lies elsewhere. -/
def childPath? (path : String) (directory : Location) (pair : Location × Entry) :
    Option String :=
  if pair.1.parent = directory then pair.1.getLast?.map (Path.join path "/") else none

theorem childPaths_eq (store : Store) (path : String) :
    store.childPaths path = store.entries.filterMap (childPath? path (store.resolve path)) := by
  rw [Store.childPaths, Store.namesIn, List.map_filterMap]
  congr 1
  funext ⟨location, entry⟩
  unfold childPath?
  by_cases inside : location.parent = store.resolve path
  · simp only [if_pos inside]
  · simp only [if_neg inside, Option.map_none]

theorem lookup_childPath
    {pair : Location × Entry}
    {child : String}
    (wellFormed : store.WellFormed)
    (linkless : store.Linkless)
    (member : pair ∈ store.entries)
    (listed : childPath? path (store.resolve path) pair = some child) :
    ∃ name,
      pair.1.getLast? = some name ∧
        child = Path.join path "/" name ∧
          store.lookup child = some pair.2 := by
  unfold childPath? at listed
  split at listed
  next inside =>
      obtain ⟨name, last, rfl⟩ := Option.map_eq_some_iff.mp listed
      have proper := wellFormed.proper member name (List.mem_of_getLast? last)
      have location_eq := Store.eq_append_of_parent_eq inside last
      have resolve_eq : store.resolve (Path.join path "/" name) = pair.1 := by
        rw [linkless.resolve_eq, Path.ofPath_join path proper, location_eq, linkless.resolve_eq]
      have below : store.resolve (Path.join path "/" name) ≠ [] := by
        rw [resolve_eq, location_eq]
        exact List.append_ne_nil_of_right_ne_nil _ (List.cons_ne_nil name [])
      refine ⟨name, last, rfl, ?_⟩
      rw [Store.lookup_of_resolve_ne_nil below, resolve_eq]
      exact wellFormed.find?_eq_some_iff.mpr member
  next => cases listed

/-- A hidden file makes no difference to a walk. -/
theorem walk_of_hidden
    {pair : Location × Entry}
    {child : String}
    {levels : Nat}
    (wellFormed : store.WellFormed)
    (linkless : store.Linkless)
    (member : pair ∈ store.entries)
    (hidden : isVisible options.sourceExtension pair = false)
    (listed : childPath? path (store.resolve path) pair = some child)
    (visited : List String) :
    walk store options levels child visited = ([], visited) := by
  obtain ⟨name, last, rfl, held⟩ := lookup_childPath wellFormed linkless member listed
  rw [isVisible, Bool.or_eq_false_iff, IsNamed, last] at hidden
  have notDirectory : store.lookup (Path.join path "/" name) ≠ some .directory := by
    rw [held]
    intro directory
    rw [Option.some.inj directory] at hidden
    cases hidden.1
  rw [walk_of_ne_directory notDirectory, sourceAt_of_not_source]
  intro content _
  rw [Path.hasExtension_join]
  exact hidden.2

/-- A walk finds and enters the same if hidden files are left out. -/
theorem walk_visible
    (wellFormed : store.WellFormed)
    (linkless : store.Linkless)
    (levels : Nat)
    (path : String)
    (visited : List String) :
    walk (visible options.sourceExtension store) options levels path visited =
      walk store options levels path visited := by
  have resolve_eq (path : String) :
      (visible options.sourceExtension store).resolve path = store.resolve path := by
    rw [linkless.resolve_eq, (visible_linkless linkless).resolve_eq]
  have directory_iff (path : String) :
      (visible options.sourceExtension store).lookup path = some .directory ↔
        store.lookup path = some .directory :=
    lookup_visible wellFormed linkless rfl
  have elsewhere (levels : Nat) (path : String) (visited : List String)
      (notDirectory : store.lookup path ≠ some .directory) :
      walk (visible options.sourceExtension store) options levels path visited =
        walk store options levels path visited := by
    rw [walk_of_ne_directory notDirectory,
      walk_of_ne_directory (mt (directory_iff path).mp notDirectory),
      sourceAt_visible wellFormed linkless]
  induction levels generalizing path visited with
  | zero =>
      by_cases directory : store.lookup path = some .directory
      · rw [walk_of_cut directory, walk_of_cut ((directory_iff path).mpr directory)]
      · exact elsewhere 0 path visited directory
  | succ levels inductionHypothesis =>
      by_cases directory : store.lookup path = some .directory
      · have below (entered : List String) :
            walkEach (walk (visible options.sourceExtension store) options levels)
                ((visible options.sourceExtension store).childPaths path) entered =
              walkEach (walk store options levels) (store.childPaths path) entered := by
          have sameStep : walk (visible options.sourceExtension store) options levels =
              walk store options levels := by
            funext child entered
            exact inductionHypothesis child entered
          rw [sameStep, childPaths_eq, childPaths_eq, resolve_eq]
          exact walkEach_filter store.entries (fun pair member hidden child listed =>
            walk_of_hidden wellFormed linkless member hidden listed) entered
        have directory' := (directory_iff path).mpr directory
        cases detecting : options.detectCycles with
        | false =>
            rw [walk_of_undetecting directory detecting, walk_of_undetecting directory' detecting,
              below]
        | true =>
            by_cases entered : (store.resolve path).toPath ∈ visited
            · rw [walk_of_visited directory detecting entered,
                walk_of_visited directory' detecting (resolve_eq path ▸ entered)]
            · rw [walk_of_entered directory detecting entered,
                walk_of_entered directory' detecting (resolve_eq path ▸ entered), below,
                resolve_eq]
      · exact elsewhere (levels + 1) path visited directory

/-- Stores that show a scan the same have the same scans. -/
theorem scan_eq_of_visible_eq
    (wellFormed : store.WellFormed)
    (linkless : store.Linkless)
    (afterFormed : after.WellFormed)
    (afterLinkless : after.Linkless)
    (same : visible options.sourceExtension after = visible options.sourceExtension store)
    (path : String) :
    scan after options path = scan store options path := by
  rw [scan_eq, scan_eq, ← walk_visible wellFormed linkless,
    ← walk_visible afterFormed afterLinkless, same]

/-! ## Writing and removing hidden files -/

theorem isVisible_file
    (unnamed : IsNamed extension location = false)
    (content : String) :
    isVisible extension (location, .file content) = false := by
  rw [isVisible, unnamed]
  rfl

/-- Removing a file that has not the extension changes nothing that is visible. -/
theorem visible_removed
    (wellFormed : store.WellFormed)
    (linkless : store.Linkless)
    (unnamed : IsNamed extension (.ofPath path) = false)
    (removed : store.removeFile path = .ok after) :
    visible extension after = visible extension store := by
  obtain ⟨content, held, rfl⟩ := Store.removeFile_eq_ok_iff.mp removed
  rw [Store.read_eq_some_iff, linkless.resolve_eq] at held
  have entries_eq : (store.erase (store.resolve path)).entries.filter (isVisible extension) =
      store.entries.filter (isVisible extension) := by
    apply Store.filter_eraseP
    rintro ⟨location, entry⟩ member chosen
    rw [beq_iff_eq, linkless.resolve_eq] at chosen
    subst chosen
    have same := (wellFormed.find?_eq_some_iff.mpr member).symm.trans held
    rw [Option.some.inj same]
    exact isVisible_file unnamed content
  rw [visible, visible, entries_eq]

/-- Writing a file that has not the extension changes nothing that is visible. -/
theorem visible_written
    {content : String}
    (wellFormed : store.WellFormed)
    (linkless : store.Linkless)
    (unnamed : IsNamed extension (.ofPath path) = false)
    (written : store.writeFile path content = .ok after) :
    visible extension after = visible extension store := by
  obtain ⟨notDirectory, _, rfl⟩ := Store.writeFile_eq_ok_iff.mp written
  rw [linkless.resolve_eq] at notDirectory ⊢
  have entries_eq :
      (store.put (.ofPath path) (.file content)).entries.filter (isVisible extension) =
        store.entries.filter (isVisible extension) := by
    refine Store.filter_putEntry ?_ (isVisible_file unnamed content)
    intro kept member
    have found := wellFormed.find?_eq_some_iff.mpr member
    cases kept with
    | file earlier => exact isVisible_file unnamed earlier
    | directory => exact absurd found notDirectory
    | link target => exact absurd found (linkless.find?_ne_link _ target)
  rw [visible, visible, entries_eq]

/-- Stores that show a scan the same hold the same sources. -/
theorem read_eq_of_visible_eq
    (wellFormed : store.WellFormed)
    (linkless : store.Linkless)
    (afterFormed : after.WellFormed)
    (afterLinkless : after.Linkless)
    (same : visible extension after = visible extension store)
    (named : Path.hasExtension path extension) :
    after.read path = store.read path := by
  apply Option.ext
  intro content
  have shown : isVisible extension (.ofPath path, .file content) = true := by
    rw [isVisible, isNamed_ofPath named, Bool.or_true]
  rw [Store.read_eq_some_iff, Store.read_eq_some_iff, linkless.resolve_eq,
    afterLinkless.resolve_eq, ← find?_visible afterFormed shown, same,
    find?_visible wellFormed shown]

/-! ## Stores that show a scan the same -/

variable {current next : Store} {content : String}

/-- A store that shows a scan what another one shows. -/
structure Shows (extension : String) (store current : Store) : Prop where
  /-- The table of the store is in order. -/
  wellFormed : current.WellFormed
  /-- No entry is a link. -/
  linkless : current.Linkless
  /-- A scan sees the same. -/
  visible_eq : visible extension current = visible extension store

theorem Shows.removed
    (shows : Shows extension store current)
    (unnamed : IsNamed extension (.ofPath path) = false)
    (removed : current.removeFile path = .ok next) :
    Shows extension store next where
  wellFormed := shows.wellFormed.removed removed
  linkless := shows.linkless.removed removed
  visible_eq :=
    (visible_removed shows.wellFormed shows.linkless unnamed removed).trans shows.visible_eq

theorem Shows.written
    (shows : Shows extension store current)
    (unnamed : IsNamed extension (.ofPath path) = false)
    (written : current.writeFile path content = .ok next) :
    Shows extension store next where
  wellFormed := shows.wellFormed.written written
  linkless := shows.linkless.written written
  visible_eq :=
    (visible_written shows.wellFormed shows.linkless unnamed written).trans shows.visible_eq

end Scan
end Baseline
