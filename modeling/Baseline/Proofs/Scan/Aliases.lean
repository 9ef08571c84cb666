import Baseline.Proofs.Scan.Chains
import Baseline.Proofs.Scan.Cycles

/-!
# Directories with several paths

Links give a directory any number of paths.  A scan that detects cycles enters it by one
of them only, so no two of the files that it finds are the same entry of a directory
(`walk_once`).  With a level for every directory the number of levels makes no difference
(`walk_eq_of_enough`), and whatever source the listings lead to, its entry is found
(`exists_sameEntry_of_leads`).
-/

namespace Baseline

namespace Path

theorem lastName_join
    {name : String}
    (proper : Location.IsProper name)
    (directory : String) :
    lastName (join directory "/" name) = name := by
  obtain ⟨front, path_eq, _⟩ := join_eq_append directory name
  rw [path_eq, lastName_append_name front proper]

end Path

namespace Scan

variable
  {store : Store}
  {options other : ScanOptions}
  {levels : Nat}
  {path name file canonical : String}
  {names visited : List String}

/-! ## Every entry once -/

/-- The canonical path of the directory around a file. -/
def LiesIn (store : Store) (file canonical : String) : Prop :=
  store.canonicalPath (Path.around file) = .ok canonical

instance (store : Store) (file canonical : String) : Decidable (LiesIn store file canonical) :=
  inferInstanceAs (Decidable (_ = _))

/-- An entry lies in the directory that lists it. -/
theorem liesIn_join
    (proper : Location.IsProper name)
    (directory : store.lookup path = some .directory) :
    LiesIn store (Path.join path "/" name) (store.resolve path).toPath := by
  obtain ⟨front, path_eq, front_eq⟩ := Path.join_eq_append path name
  have resolve_eq : store.resolve front = store.resolve path := by
    rw [Store.resolve, front_eq, ← Store.resolve]
  have frontDirectory : store.lookup front = some .directory := by
    rw [Store.lookup_eq_entryAt, resolve_eq, ← Store.lookup_eq_entryAt, directory]
  rw [LiesIn, path_eq, Path.around_append_name front proper, ← resolve_eq]
  exact canonicalPath_of_lookup frontDirectory

/-- Files that are the same entry lie in the same directory. -/
theorem SameEntry.canonical_eq
    {left right leftCanonical rightCanonical : String}
    (same : SameEntry store left right)
    (leftLies : LiesIn store left leftCanonical)
    (rightLies : LiesIn store right rightCanonical) :
    leftCanonical = rightCanonical := by
  have answers := same.2
  rw [LiesIn] at leftLies rightLies
  rw [leftLies, rightLies] at answers
  exact Except.ok.inj answers

/-- A walk finds the path itself or files in directories that it enters, and no entry
twice. -/
structure Once (store : Store) (path : String) (visited : List String)
    (result : List String × List String) : Prop where
  /-- A file found is the path itself or lies in a directory that was not entered
  before. -/
  home {file : String} :
    file ∈ result.1 →
    file = path ∨ ∃ canonical ∈ result.2, canonical ∉ visited ∧ LiesIn store file canonical
  /-- No two files found are the same entry. -/
  apart : result.1.Pairwise fun left right => ¬SameEntry store left right

/-- Walks from the entries of an entered directory find no entry twice. -/
theorem walkEach_once
    {step : String → List String → List String × List String}
    (grows : ∀ path visited, visited ⊆ (step path visited).2)
    (once : ∀ path visited, Once store path visited (step path visited))
    (directory : store.lookup path = some .directory)
    (proper : ∀ name ∈ names, Location.IsProper name)
    (distinct : names.Nodup)
    (entered : (store.resolve path).toPath ∈ visited) :
    (∀ file ∈ (walkEach step (names.map (Path.join path "/")) visited).1,
      (∃ name ∈ names, file = Path.join path "/" name) ∨
        ∃ canonical ∈ (walkEach step (names.map (Path.join path "/")) visited).2,
          canonical ∉ visited ∧ LiesIn store file canonical) ∧
      (walkEach step (names.map (Path.join path "/")) visited).1.Pairwise
        fun left right => ¬SameEntry store left right := by
  induction names generalizing visited with
  | nil => exact ⟨fun file member => absurd member List.not_mem_nil, .nil⟩
  | cons name rest inductionHypothesis =>
      obtain ⟨nameProper, restProper⟩ := List.forall_mem_cons.mp proper
      obtain ⟨notLater, restDistinct⟩ := List.nodup_cons.mp distinct
      have now := once (Path.join path "/" name) visited
      have stays := grows (Path.join path "/" name) visited
      obtain ⟨laterHome, laterApart⟩ :=
        inductionHypothesis restProper restDistinct (stays entered)
      have enteredLater := walkEach_subset grows (rest.map (Path.join path "/"))
        (step (Path.join path "/" name) visited).2
      rw [List.map_cons, walkEach_cons]
      constructor
      · intro file member
        rcases List.mem_append.mp member with first | later
        · rcases now.home first with rfl | ⟨canonical, member, fresh, lies⟩
          · exact .inl ⟨name, List.mem_cons_self, rfl⟩
          · exact .inr ⟨canonical, enteredLater member, fresh, lies⟩
        · rcases laterHome file later with ⟨other, listed, rfl⟩ | ⟨canonical, member, fresh, lies⟩
          · exact .inl ⟨other, List.mem_cons_of_mem _ listed, rfl⟩
          · exact .inr ⟨canonical, member, fun earlier => fresh (stays earlier), lies⟩
      · refine List.pairwise_append.mpr ⟨now.apart, laterApart, ?_⟩
        intro left leftMember right rightMember same
        -- Either file is listed in the directory itself or lies in one entered below it.
        rcases now.home leftMember with rfl | ⟨leftCanonical, leftEntered, leftFresh, leftLies⟩
        · rcases laterHome right rightMember with
            ⟨other, member, rfl⟩ | ⟨rightCanonical, _, rightFresh, rightLies⟩
          · have names_eq := same.1
            rw [Path.lastName_join nameProper, Path.lastName_join (restProper other member)]
              at names_eq
            exact notLater (names_eq ▸ member)
          · have equal := same.canonical_eq (liesIn_join nameProper directory) rightLies
            exact rightFresh (equal ▸ stays entered)
        · rcases laterHome right rightMember with
            ⟨other, member, rfl⟩ | ⟨rightCanonical, _, rightFresh, rightLies⟩
          · have equal := same.canonical_eq leftLies
              (liesIn_join (restProper other member) directory)
            exact leftFresh (equal ▸ entered)
          · exact rightFresh (same.canonical_eq leftLies rightLies ▸ leftEntered)

theorem once_sourceAt (store : Store) (options : ScanOptions) (path : String)
    (visited : List String) :
    Once store path visited (sourceAt store options path, visited) where
  home member := .inl (mem_sourceAt.mp member).1
  apart := by
    rcases sourceAt_eq_nil_or store options path with none | one
    · simp only [none]
      exact .nil
    · simp only [one]
      exact List.pairwise_singleton _ _

theorem once_nothing (store : Store) (path : String) (visited : List String) :
    Once store path visited ([], visited) where
  home member := absurd member List.not_mem_nil
  apart := .nil

/-- A walk that detects cycles finds no entry twice. -/
theorem walk_once
    (wellFormed : store.WellFormed)
    (detecting : options.detectCycles = true)
    (levels : Nat)
    (path : String)
    (visited : List String) :
    Once store path visited (walk store options levels path visited) := by
  induction levels generalizing path visited with
  | zero =>
      by_cases directory : store.lookup path = some .directory
      · rw [walk_of_cut directory]
        exact once_nothing store path visited
      · rw [walk_of_ne_directory directory]
        exact once_sourceAt store options path visited
  | succ levels inductionHypothesis =>
      by_cases directory : store.lookup path = some .directory
      · by_cases entered : (store.resolve path).toPath ∈ visited
        · rw [walk_of_visited directory detecting entered]
          exact once_nothing store path visited
        · rw [walk_of_entered directory detecting entered]
          obtain ⟨home, apart⟩ := walkEach_once (walk_subset detecting levels)
            inductionHypothesis directory (fun _ => wellFormed.name_proper)
            (wellFormed.nodup_namesIn (store.resolve path))
            (List.mem_cons_self (a := (store.resolve path).toPath) (l := visited))
          refine ⟨fun member => .inr ?_, apart⟩
          rcases home _ member with ⟨name, listed, rfl⟩ | ⟨canonical, member, fresh, lies⟩
          · refine ⟨(store.resolve path).toPath, ?_, entered, ?_⟩
            · exact walkEach_subset (walk_subset detecting levels) _ _ List.mem_cons_self
            · exact liesIn_join (wellFormed.name_proper listed) directory
          · exact ⟨canonical, member, fun earlier => fresh (List.mem_cons_of_mem _ earlier), lies⟩
      · rw [walk_of_ne_directory directory]
        exact once_sourceAt store options path visited

/-! ## Enough levels -/

/-- Ways of walking that agree while more and more directories are entered agree from
all paths together. -/
theorem walkEach_congr
    {first second : String → List String → List String × List String}
    (ready : List String → Prop)
    (grows : ∀ path visited, visited ⊆ (first path visited).2)
    (stays : ∀ visited visited', visited ⊆ visited' → ready visited → ready visited')
    (agree : ∀ path visited, ready visited → first path visited = second path visited)
    (paths : List String)
    (visited : List String)
    (prepared : ready visited) :
    walkEach first paths visited = walkEach second paths visited := by
  induction paths generalizing visited with
  | nil => rfl
  | cons path rest inductionHypothesis =>
      have later := inductionHypothesis _ (stays _ _ (grows path visited) prepared)
      rw [walkEach_cons, walkEach_cons, ← agree path visited prepared, later]

/-- A directory that was entered before is passed over, whatever the number of levels. -/
theorem walk_of_mem
    (detecting : options.detectCycles = true)
    (directory : store.lookup path = some .directory)
    (entered : (store.resolve path).toPath ∈ visited)
    (levels : Nat) :
    walk store options levels path visited = ([], visited) := by
  cases levels with
  | zero => exact walk_of_cut directory
  | succ levels => exact walk_of_visited directory detecting entered

/-- With a level for every directory left, the number of levels makes no difference. -/
theorem walk_eq_of_enough
    (detecting : options.detectCycles = true)
    (otherDetecting : other.detectCycles = true)
    (sameExtension : other.sourceExtension = options.sourceExtension)
    (levels more : Nat)
    (path : String)
    (visited : List String)
    (enough : remaining store visited ≤ levels)
    (otherEnough : remaining store visited ≤ more) :
    walk store options levels path visited = walk store other more path visited := by
  induction levels using Nat.strongRecOn generalizing more path visited with
  | ind levels inductionHypothesis =>
      by_cases directory : store.lookup path = some .directory
      · by_cases entered : (store.resolve path).toPath ∈ visited
        · rw [walk_of_mem detecting directory entered, walk_of_mem otherDetecting directory entered]
        · have fewerLeft := remaining_cons_lt (canonical_mem_directoryPaths directory) entered
          obtain ⟨fewer, rfl⟩ : ∃ fewer, levels = fewer + 1 := ⟨levels - 1, by omega⟩
          obtain ⟨less, rfl⟩ : ∃ less, more = less + 1 := ⟨more - 1, by omega⟩
          rw [walk_of_entered directory detecting entered,
            walk_of_entered directory otherDetecting entered]
          refine walkEach_congr
            (fun visited => remaining store visited ≤ fewer ∧ remaining store visited ≤ less)
            (walk_subset detecting fewer) ?_ ?_ _ _ ⟨by omega, by omega⟩
          · intro earlier later subset ready
            have shrinks : remaining store later ≤ remaining store earlier := remaining_le subset
            exact ⟨Nat.le_trans shrinks ready.1, Nat.le_trans shrinks ready.2⟩
          · intro child visited ready
            exact inductionHypothesis fewer (Nat.lt_succ_self fewer) less child visited ready.1
              ready.2
      · rw [walk_of_ne_directory directory, walk_of_ne_directory directory, sourceAt, sourceAt,
          sameExtension]

/-- With a level for every directory, the entry of every source that the listings lead to
is found. -/
theorem exists_sameEntry_of_leads
    (wellFormed : store.WellFormed)
    (detecting : options.detectCycles = true)
    (enough : store.entries.countP (fun pair => pair.2.isDirectory) ≤ options.maxDepth)
    (leads : Leads store path names)
    (source : IsSource store options.sourceExtension (Path.descend path names)) :
    ∃ file ∈ (walk store options (options.maxDepth + 1) path []).1,
      SameEntry store (Path.descend path names) file := by
  by_cases directory : store.lookup path = some .directory
  · obtain ⟨front, last, rfl⟩ := names.eq_nil_or_concat'.resolve_left fun empty =>
      source.lookup_ne_directory (empty ▸ directory)
    obtain ⟨frontLeads, lists⟩ := leads.concat
    have entered := entered_of_leads (walk_closed_of_enough_levels wellFormed detecting enough path)
      frontLeads (lists_iff.mp lists).1 (entered_of_level detecting directory options.maxDepth [])
    have reported := (walk_reported detecting _ path [] _ entered).resolve_left List.not_mem_nil
    rw [Path.descend_concat] at source ⊢
    exact reported.exists_sameEntry wellFormed lists source
  · have empty := leads.eq_nil directory
    subst empty
    rw [walk_of_ne_directory directory]
    exact ⟨path, isSource_iff_mem_sourceAt.mp source, .refl path⟩

/-- A scan that detects cycles does not fail and finds no entry twice.  If the depth limit
is greater than the number of directories, every such limit gives the same, and the entry
of every source that the listings lead to, through links or not, is found. -/
theorem scan_finds_every_entry_once
    {writers : List Store.Writer}
    (reachable : Store.Reachable store writers)
    (detecting : options.detectCycles = true)
    (root : String) :
    ∃ found,
      scan store options root = .ok found ∧
      found.Pairwise (fun left right => ¬SameEntry store left right) ∧
      (store.entries.countP (fun pair => pair.2.isDirectory) < options.maxDepth →
        (∀ limit, store.entries.countP (fun pair => pair.2.isDirectory) < limit →
          scan store { options with maxDepth := limit } root = .ok found) ∧
        ∀ names, Leads store root names →
          IsSource store options.sourceExtension (Path.descend root names) →
          ∃ file ∈ found, SameEntry store (Path.descend root names) file) := by
  have wellFormed := reachable.wellFormed
  refine ⟨(walk store options (options.maxDepth + 1) root []).1, scan_eq store options root,
    (walk_once wellFormed detecting _ root []).apart, fun enough => ?_⟩
  refine ⟨fun limit alsoEnough => ?_, ?_⟩
  · have left := remaining_nil store
    have limited : ({ options with maxDepth := limit } : ScanOptions).detectCycles = true :=
      detecting
    rw [scan_eq, walk_eq_of_enough detecting limited rfl (options.maxDepth + 1) (limit + 1) root []
      (by omega) (by omega)]
  · intro names leads source
    exact exists_sameEntry_of_leads wellFormed detecting (Nat.le_of_lt enough) leads source

/-- Two directories with links to each other, one of them below the other. -/
def crossedStore : Store :=
  (((Store.empty.withFile "root/a.src" "a").withLink "root/in" "root/sub").withFile
    "root/sub/b.src" "b").withLink "root/sub/out" "root"

theorem crossedStore_reachable : Store.Reachable crossedStore [] :=
  .withLink "root/sub/out" "root"
    (.withFile "root/sub/b.src" "b"
      (.withLink "root/in" "root/sub" (.withFile "root/a.src" "a" (.empty _))))

/-- The source in the lower directory is found through the link that comes first, and the
chain without links leads to the same entry. -/
theorem scan_crossedStore_finds_every_entry_once :
    Store.Reachable crossedStore [] ∧
      scan crossedStore { sourceExtension := "src" } "root" =
        .ok ["root/a.src", "root/in/b.src"] ∧
      (∀ limit, 2 < limit →
        scan crossedStore ⟨"src", limit, true⟩ "root" = .ok ["root/a.src", "root/in/b.src"]) ∧
      Leads crossedStore "root" ["sub", "b.src"] ∧
      ∃ file ∈ ["root/a.src", "root/in/b.src"], SameEntry crossedStore "root/sub/b.src" file := by
  have scanned : scan crossedStore { sourceExtension := "src" } "root" =
      .ok ["root/a.src", "root/in/b.src"] := by
    decide +kernel
  have count : crossedStore.entries.countP (fun pair => pair.2.isDirectory) = 2 := by
    decide +kernel
  have leads : Leads crossedStore "root" ["sub", "b.src"] := by
    refine ⟨lists_iff.mpr ?_, lists_iff.mpr ?_, trivial⟩
    · decide +kernel
    · decide +kernel
  have source : IsSource crossedStore "src" "root/sub/b.src" := by
    refine ⟨isFile_eq_ok_true_iff.mpr ⟨"b", ?_⟩, ?_⟩
    · decide +kernel
    · decide +kernel
  obtain ⟨found, found_eq, _, complete⟩ := scan_finds_every_entry_once crossedStore_reachable
    (rfl : ({ sourceExtension := "src" } : ScanOptions).detectCycles = true) "root"
  rw [scanned] at found_eq
  have found_eq := Except.ok.inj found_eq
  subst found_eq
  rw [count] at complete
  obtain ⟨limits, finds⟩ := complete (by decide)
  exact ⟨crossedStore_reachable, scanned, limits, leads, finds _ leads source⟩

end Scan
end Baseline
