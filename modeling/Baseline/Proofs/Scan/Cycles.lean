import Baseline.Proofs.Scan.Chains

/-!
# Scans that detect cycles

A scan that detects cycles enters a directory once, by whichever path comes first.
Every source listed in an entered directory is found, up to the path of the directory
(`walk_reported`, `Reported.exists_sameEntry`).  A depth limit that is not smaller than the
number of directories keeps no directory out: those listed in an entered one are entered
(`walk_closed_of_enough_levels`), and so are all directories that chains lead to
(`entered_of_leads`).
-/

namespace Baseline

namespace Path

/-- The text after the last slash. -/
def lastName (path : String) : String :=
  String.ofList ((Text.pieces '/' path.toList).getLastD [])

/-- The text before the last slash; empty if there is none. -/
def around (path : String) : String :=
  String.ofList (['/'].intercalate (Text.pieces '/' path.toList).dropLast)

theorem pieces_append_name
    (front : String)
    {name : String}
    (proper : Location.IsProper name) :
    Text.pieces '/' (front ++ "/" ++ name).toList =
      Text.pieces '/' front.toList ++ [name.toList] := by
  have characters : (front ++ "/" ++ name).toList = front.toList ++ '/' :: name.toList := by simp
  rw [characters, Text.pieces_append_separator, Text.pieces_eq_singleton proper.2]

theorem lastName_append_name
    (front : String)
    {name : String}
    (proper : Location.IsProper name) :
    lastName (front ++ "/" ++ name) = name := by
  rw [lastName, pieces_append_name front proper, List.getLastD_concat, String.ofList_toList]

theorem around_append_name
    (front : String)
    {name : String}
    (proper : Location.IsProper name) :
    around (front ++ "/" ++ name) = front := by
  rw [around, pieces_append_name front proper, List.dropLast_concat, Text.intercalate_pieces,
    String.ofList_toList]

end Path

namespace Scan

/-- Two paths have one last name, and the directories around them are one. -/
def SameEntry (store : Store) (left right : String) : Prop :=
  Path.lastName left = Path.lastName right ∧
    store.canonicalPath (Path.around left) = store.canonicalPath (Path.around right)

variable
  {store : Store}
  {options : ScanOptions}
  {levels : Nat}
  {path : String}
  {visited found : List String}

theorem SameEntry.refl (path : String) : SameEntry store path path :=
  ⟨rfl, rfl⟩

/-- Entries with one name of one directory are the same. -/
theorem sameEntry_join
    {left right name : String}
    (proper : Location.IsProper name)
    (directory : store.lookup left = some .directory)
    (same : store.resolve left = store.resolve right) :
    SameEntry store (Path.join left "/" name) (Path.join right "/" name) := by
  obtain ⟨leftFront, leftJoin, leftFront_eq⟩ := Path.join_eq_append left name
  obtain ⟨rightFront, rightJoin, rightFront_eq⟩ := Path.join_eq_append right name
  have leftResolve : store.resolve leftFront = store.resolve left := by
    rw [Store.resolve, leftFront_eq, Store.resolve]
  have rightResolve : store.resolve rightFront = store.resolve left := by
    rw [Store.resolve, rightFront_eq, ← Store.resolve, same]
  have leftDirectory : store.lookup leftFront = some .directory := by
    rw [Store.lookup_eq_entryAt, leftResolve, ← Store.lookup_eq_entryAt, directory]
  have rightDirectory : store.lookup rightFront = some .directory := by
    rw [Store.lookup_eq_entryAt, rightResolve, ← Store.lookup_eq_entryAt, directory]
  rw [SameEntry, leftJoin, rightJoin, Path.lastName_append_name _ proper,
    Path.lastName_append_name _ proper, Path.around_append_name _ proper,
    Path.around_append_name _ proper]
  have leftCanonical := canonicalPath_of_lookup leftDirectory
  have rightCanonical := canonicalPath_of_lookup rightDirectory
  rw [leftResolve] at leftCanonical
  rw [rightResolve] at rightCanonical
  exact ⟨rfl, leftCanonical.trans rightCanonical.symm⟩

/-! ## Walks from several paths -/

section WalkEach

variable {step : String → List String → List String × List String}

/-- Walks do not forget the directories entered. -/
theorem walkEach_subset
    (grows : ∀ path visited, visited ⊆ (step path visited).2)
    (paths visited : List String) :
    visited ⊆ (walkEach step paths visited).2 := by
  induction paths generalizing visited with
  | nil => exact List.Subset.refl visited
  | cons path rest inductionHypothesis =>
      exact List.Subset.trans (grows path visited) (inductionHypothesis _)

/-- What one of the walks finds is found by all of them together. -/
theorem mem_walkEach
    {file : String}
    {paths : List String}
    (member : path ∈ paths)
    (finds : ∀ visited, file ∈ (step path visited).1)
    (visited : List String) :
    file ∈ (walkEach step paths visited).1 := by
  induction paths generalizing visited with
  | nil => cases member
  | cons first rest inductionHypothesis =>
      rw [walkEach]
      rcases List.mem_cons.mp member with rfl | later
      · exact List.mem_append_left _ (finds visited)
      · exact List.mem_append_right _ (inductionHypothesis later _)

/-- If each walk does good to the directories that it enters, so do all of them
together; a walk may rely on what stays true when more directories are entered. -/
theorem walkEach_good
    {paths : List String}
    (ready : List String → Prop)
    (good : List String × List String → String → Prop)
    (grows : ∀ path visited, visited ⊆ (step path visited).2)
    (stays : ∀ visited visited', visited ⊆ visited' → ready visited → ready visited')
    (lasts : ∀ before after canonical, before.1 ⊆ after.1 → before.2 ⊆ after.2 →
      good before canonical → good after canonical)
    (each : ∀ path ∈ paths, ∀ visited, ready visited → ∀ canonical ∈ (step path visited).2,
      canonical ∈ visited ∨ good (step path visited) canonical)
    (visited : List String)
    (prepared : ready visited) :
    ∀ canonical ∈ (walkEach step paths visited).2,
      canonical ∈ visited ∨ good (walkEach step paths visited) canonical := by
  induction paths generalizing visited with
  | nil => exact fun canonical member => .inl member
  | cons path rest inductionHypothesis =>
      obtain ⟨eachFirst, eachLater⟩ := List.forall_mem_cons.mp each
      intro canonical member
      have later :=
        inductionHypothesis eachLater _ (stays _ _ (grows path visited) prepared) canonical member
      rcases later with entered | well
      · refine (eachFirst visited prepared canonical entered).imp_right ?_
        exact lasts _ _ canonical (List.subset_append_left _ _) (walkEach_subset grows rest _)
      · refine .inr (lasts _ _ canonical (List.subset_append_right _ _) ?_ well)
        exact List.Subset.refl _

end WalkEach

/-! ## What an entered directory can rely on -/

/-- A walk that detects cycles enters no directory, or a new one and walks from its
entries. -/
theorem walk_cases
    (detecting : options.detectCycles = true)
    (levels : Nat)
    (path : String)
    (visited : List String) :
    (walk store options levels path visited).2 = visited ∨
      ∃ fewer,
        levels = fewer + 1 ∧
          store.lookup path = some .directory ∧
            (store.resolve path).toPath ∉ visited ∧
              walk store options levels path visited =
                walkEach (walk store options fewer) (store.childPaths path)
                  ((store.resolve path).toPath :: visited) := by
  by_cases directory : store.lookup path = some .directory
  · cases levels with
    | zero =>
        rw [walk_of_cut directory]
        exact .inl rfl
    | succ fewer =>
        by_cases entered : (store.resolve path).toPath ∈ visited
        · rw [walk_of_visited directory detecting entered]
          exact .inl rfl
        · exact .inr ⟨fewer, rfl, directory, entered, walk_of_entered directory detecting entered⟩
  · rw [walk_of_ne_directory directory]
    exact .inl rfl

theorem walk_subset
    (detecting : options.detectCycles = true)
    (levels : Nat)
    (path : String)
    (visited : List String) :
    visited ⊆ (walk store options levels path visited).2 := by
  induction levels using Nat.strongRecOn generalizing path visited with
  | ind levels inductionHypothesis =>
      rcases walk_cases detecting levels path visited with same | ⟨fewer, rfl, _, _, walk_eq⟩
      · exact fun canonical member => same.symm ▸ member
      · rw [walk_eq]
        have grows := inductionHypothesis fewer (Nat.lt_succ_self fewer)
        exact List.Subset.trans (List.subset_cons_self _ _) (walkEach_subset grows _ _)

/-- The sources listed in a directory are found. -/
def Reported
    (store : Store)
    (options : ScanOptions)
    (found : List String)
    (canonical : String) :
    Prop :=
  ∃ directory : String,
    (store.resolve directory).toPath = canonical ∧
      ∀ child ∈ store.childPaths directory, ∀ content,
        store.lookup child = some (.file content) →
        Path.hasExtension child options.sourceExtension →
        child ∈ found

theorem Reported.mono
    {later : List String}
    {canonical : String}
    (subset : found ⊆ later)
    (reported : Reported store options found canonical) :
    Reported store options later canonical := by
  obtain ⟨directory, canonical_eq, finds⟩ := reported
  refine ⟨directory, canonical_eq, ?_⟩
  exact fun child member content file named => subset (finds child member content file named)

/-- The sources listed in a directory that a walk enters are found by the walk. -/
theorem walk_reported
    (detecting : options.detectCycles = true)
    (levels : Nat)
    (path : String)
    (visited : List String) :
    ∀ canonical ∈ (walk store options levels path visited).2,
      canonical ∈ visited ∨
        Reported store options (walk store options levels path visited).1 canonical := by
  induction levels using Nat.strongRecOn generalizing path visited with
  | ind levels inductionHypothesis =>
      rcases walk_cases detecting levels path visited with same | ⟨fewer, rfl, _, _, walk_eq⟩
      · exact fun canonical member => .inl (same ▸ member)
      rw [walk_eq]
      intro canonical member
      have later := walkEach_good (fun _ => True)
        (fun results => Reported store options results.1) (walk_subset detecting fewer)
        (fun _ _ _ _ => trivial) (fun _ _ _ subset _ => Reported.mono subset)
        (fun path _ visited _ => inductionHypothesis fewer (Nat.lt_succ_self fewer) path visited)
        ((store.resolve path).toPath :: visited) trivial canonical member
      rcases later with entered | reported
      · rcases List.mem_cons.mp entered with rfl | entered
        · refine .inr ⟨path, rfl, ?_⟩
          intro child listed content file named
          refine mem_walkEach listed ?_ _
          intro entered
          rw [walk_of_ne_directory (by simp [file])]
          exact mem_sourceAt.mpr ⟨rfl, ⟨content, file⟩, named⟩
        · exact .inl entered
      · exact .inr reported

/-! ## Directories kept out by the depth limit -/

/-- The directories listed in one are entered. -/
def ClosedAt (store : Store) (visited : List String) (canonical : String) : Prop :=
  ∀ directory child : String,
    (store.resolve directory).toPath = canonical →
    child ∈ store.childPaths directory →
    store.lookup child = some .directory →
    (store.resolve child).toPath ∈ visited

/-- The canonical paths of the root and of the directories of a store. -/
def directoryPaths (store : Store) : List String :=
  "" :: (store.entries.filter fun pair => pair.2.isDirectory).map fun pair => pair.1.toPath

/-- The number of directories not entered yet. -/
def remaining (store : Store) (visited : List String) : Nat :=
  (directoryPaths store).countP fun canonical => !visited.contains canonical

theorem canonical_mem_directoryPaths (directory : store.lookup path = some .directory) :
    (store.resolve path).toPath ∈ directoryPaths store := by
  by_cases root : store.resolve path = []
  · rw [root]
    exact List.mem_cons_self
  · rw [Store.lookup_of_resolve_ne_nil root] at directory
    refine List.mem_cons_of_mem _ (List.mem_map.mpr ⟨(store.resolve path, .directory), ?_, rfl⟩)
    exact List.mem_filter.mpr ⟨Store.mem_of_find?_eq_some directory, rfl⟩

theorem countP_not_contains_le
    {later : List String}
    (subset : visited ⊆ later)
    (paths : List String) :
    paths.countP (fun path => !later.contains path) ≤
      paths.countP fun path => !visited.contains path := by
  apply List.countP_mono_left
  intro canonical _ absent
  simp only [Bool.not_eq_true', List.contains_eq_mem, decide_eq_false_iff_not] at absent ⊢
  exact fun member => absent (subset member)

theorem remaining_le
    {later : List String}
    (subset : visited ⊆ later) :
    remaining store later ≤ remaining store visited :=
  countP_not_contains_le subset (directoryPaths store)

/-- Entering a new directory leaves fewer to enter. -/
theorem remaining_cons_lt
    {canonical : String}
    (member : canonical ∈ directoryPaths store)
    (fresh : canonical ∉ visited) :
    remaining store (canonical :: visited) < remaining store visited := by
  obtain ⟨before, after, split⟩ := List.append_of_mem member
  have now : (!(canonical :: visited).contains canonical) = false := by simp
  have earlier : (!visited.contains canonical) = true := by simpa using fresh
  have beforeLe := countP_not_contains_le (List.subset_cons_self canonical visited) before
  have afterLe := countP_not_contains_le (List.subset_cons_self canonical visited) after
  rw [remaining, remaining, split, List.countP_append, List.countP_append, List.countP_cons,
    List.countP_cons, now, earlier, if_neg Bool.false_ne_true, if_pos rfl]
  omega

theorem remaining_nil (store : Store) :
    remaining store [] = store.entries.countP (fun pair => pair.2.isDirectory) + 1 := by
  rw [remaining, List.countP_eq_length.mpr (by simp), directoryPaths, List.length_cons,
    List.length_map, List.countP_eq_length_filter]

/-- With a level left, a directory is entered. -/
theorem entered_of_level
    (detecting : options.detectCycles = true)
    (directory : store.lookup path = some .directory)
    (levels : Nat)
    (visited : List String) :
    (store.resolve path).toPath ∈ (walk store options (levels + 1) path visited).2 := by
  by_cases entered : (store.resolve path).toPath ∈ visited
  · exact walk_subset detecting (levels + 1) path visited entered
  · rw [walk_of_entered directory detecting entered]
    exact walkEach_subset (walk_subset detecting levels) _ _ List.mem_cons_self

/-- With a level for every directory left, a directory is entered. -/
theorem walk_enters
    (detecting : options.detectCycles = true)
    (enough : remaining store visited ≤ levels)
    (directory : store.lookup path = some .directory) :
    (store.resolve path).toPath ∈ (walk store options levels path visited).2 := by
  by_cases entered : (store.resolve path).toPath ∈ visited
  · exact walk_subset detecting levels path visited entered
  · have fewerLeft := remaining_cons_lt (canonical_mem_directoryPaths directory) entered
    obtain ⟨fewer, rfl⟩ : ∃ fewer, levels = fewer + 1 := ⟨levels - 1, by omega⟩
    exact entered_of_level detecting directory fewer visited

theorem mem_walkEach_entered
    {step : String → List String → List String × List String}
    {ready : List String → Prop}
    {canonical : String}
    {paths : List String}
    (grows : ∀ path visited, visited ⊆ (step path visited).2)
    (stays : ∀ visited visited', visited ⊆ visited' → ready visited → ready visited')
    (member : path ∈ paths)
    (enters : ∀ visited, ready visited → canonical ∈ (step path visited).2)
    (prepared : ready visited) :
    canonical ∈ (walkEach step paths visited).2 := by
  induction paths generalizing visited with
  | nil => cases member
  | cons first rest inductionHypothesis =>
      rcases List.mem_cons.mp member with rfl | later
      · exact walkEach_subset grows rest _ (enters visited prepared)
      · exact inductionHypothesis later (stays _ _ (grows first visited) prepared)

/-- Entries of one directory lead to the same, by whichever path it is named. -/
theorem exists_child_of_resolve_eq
    {left right child : String}
    (wellFormed : store.WellFormed)
    (same : store.resolve left = store.resolve right)
    (listed : child ∈ store.childPaths left) :
    ∃ name, Location.IsProper name ∧ child = Path.join left "/" name ∧
      Path.join right "/" name ∈ store.childPaths right ∧
        store.resolve (Path.join right "/" name) = store.resolve child := by
  obtain ⟨name, member, rfl⟩ := List.mem_map.mp listed
  have proper := wellFormed.name_proper member
  refine ⟨name, proper, rfl, List.mem_map.mpr ⟨name, same ▸ member, rfl⟩, ?_⟩
  rw [Store.resolve_join store right proper, Store.resolve_join store left proper, same]

theorem resolve_eq_of_toPath_eq
    {left right : String}
    (wellFormed : store.WellFormed)
    (equal : (store.resolve left).toPath = (store.resolve right).toPath) :
    store.resolve left = store.resolve right :=
  Location.toPath_inj (wellFormed.resolve_proper left) (wellFormed.resolve_proper right) equal

/-- If walks enter the directories that they start at, walks from the entries of a directory
enter all directories listed in it. -/
theorem closedAt_walkEach
    {step : String → List String → List String × List String}
    (wellFormed : store.WellFormed)
    (ready : List String → Prop)
    (grows : ∀ path visited, visited ⊆ (step path visited).2)
    (stays : ∀ visited visited', visited ⊆ visited' → ready visited → ready visited')
    (enters : ∀ {child visited}, store.lookup child = some .directory → ready visited →
      (store.resolve child).toPath ∈ (step child visited).2)
    (prepared : ready visited) :
    ClosedAt store (walkEach step (store.childPaths path) visited).2
      (store.resolve path).toPath := by
  intro other child equal listed isDirectory
  obtain ⟨name, _, _, sibling, sameChild⟩ := exists_child_of_resolve_eq wellFormed
    (resolve_eq_of_toPath_eq wellFormed equal) listed
  rw [← sameChild]
  rw [Store.lookup_eq_entryAt, ← sameChild, ← Store.lookup_eq_entryAt] at isDirectory
  exact mem_walkEach_entered grows stays sibling (fun _ ready => enters isDirectory ready) prepared

/-- With a level for every directory left, a walk enters all directories listed in
those that it enters. -/
theorem walk_closedAt
    (wellFormed : store.WellFormed)
    (detecting : options.detectCycles = true)
    (levels : Nat)
    (path : String)
    (visited : List String)
    (enough : remaining store visited ≤ levels) :
    ∀ canonical ∈ (walk store options levels path visited).2,
      canonical ∈ visited ∨
        ClosedAt store (walk store options levels path visited).2 canonical := by
  induction levels using Nat.strongRecOn generalizing path visited with
  | ind levels inductionHypothesis =>
      rcases walk_cases detecting levels path visited with
        same | ⟨fewer, rfl, directory, fresh, walk_eq⟩
      · exact fun canonical member => .inl (same ▸ member)
      have fewerLeft := remaining_cons_lt (canonical_mem_directoryPaths directory) fresh
      have prepared : remaining store ((store.resolve path).toPath :: visited) ≤ fewer := by omega
      have grows (path : String) (visited : List String) :
          visited ⊆ (walk store options fewer path visited).2 :=
        walk_subset detecting fewer path visited
      have stays (earlier later : List String) (subset : earlier ⊆ later)
          (ready : remaining store earlier ≤ fewer) : remaining store later ≤ fewer :=
        Nat.le_trans (remaining_le subset) ready
      rw [walk_eq]
      intro canonical member
      have later := walkEach_good (fun entered => remaining store entered ≤ fewer)
        (fun results => ClosedAt store results.2) grows stays
        (fun _ _ _ _ subset closed directory child equal listed isDirectory =>
          subset (closed directory child equal listed isDirectory))
        (fun path _ => inductionHypothesis fewer (Nat.lt_succ_self fewer) path)
        _ prepared canonical member
      rcases later with entered | closed
      · rcases List.mem_cons.mp entered with rfl | entered
        · exact .inr (closedAt_walkEach wellFormed _ grows stays
            (fun isDirectory ready => walk_enters detecting ready isDirectory) prepared)
        · exact .inl entered
      · exact .inr closed

/-- A depth limit that is not smaller than the number of directories keeps no
directory out. -/
theorem walk_closed_of_enough_levels
    (wellFormed : store.WellFormed)
    (detecting : options.detectCycles = true)
    (enough : store.entries.countP (fun pair => pair.2.isDirectory) ≤ options.maxDepth)
    (path : String) :
    ∀ canonical ∈ (walk store options (options.maxDepth + 1) path []).2,
      ClosedAt store (walk store options (options.maxDepth + 1) path []).2 canonical := by
  intro canonical entered
  have prepared : remaining store [] ≤ options.maxDepth + 1 := by
    rw [remaining_nil]
    omega
  exact (walk_closedAt wellFormed detecting (options.maxDepth + 1) path [] prepared canonical
    entered).resolve_left List.not_mem_nil

/-! ## Chains through entered directories -/

section Leads

variable {name : String} {names : List String}

/-- A source listed in an entered directory is found, up to the path of the directory. -/
theorem Reported.exists_sameEntry
    (wellFormed : store.WellFormed)
    (reported : Reported store options found (store.resolve path).toPath)
    (lists : Lists store path name)
    (source : IsSource store options.sourceExtension (Path.join path "/" name)) :
    ∃ other ∈ found, SameEntry store (Path.join path "/" name) other := by
  obtain ⟨directory, listed⟩ := lists_iff.mp lists
  obtain ⟨content, isFile⟩ := isFile_eq_ok_true_iff.mp source.1
  obtain ⟨other, canonical_eq, finds⟩ := reported
  have same := resolve_eq_of_toPath_eq wellFormed canonical_eq
  have proper := wellFormed.name_proper listed
  have sibling_eq : store.resolve (Path.join other "/" name) =
      store.resolve (Path.join path "/" name) := by
    rw [Store.resolve_join store other proper, Store.resolve_join store path proper, same]
  refine ⟨_, finds _ (List.mem_map.mpr ⟨name, same.symm ▸ listed, rfl⟩) content ?_ ?_,
    sameEntry_join proper directory same.symm⟩
  · rw [Store.lookup_eq_entryAt, sibling_eq, ← Store.lookup_eq_entryAt, isFile]
  · have named := source.2
    rw [Path.hasExtension_join] at named ⊢
    exact named

/-- On the way to a directory that is not entered, a first one is not entered although the one
that lists it is. -/
theorem exists_unentered_of_leads
    (leads : Leads store path names)
    (directory : store.lookup (Path.descend path names) = some .directory)
    (entered : (store.resolve path).toPath ∈ visited)
    (missed : (store.resolve (Path.descend path names)).toPath ∉ visited) :
    ∃ front name back,
      names = front ++ name :: back ∧
        (store.resolve (Path.descend path front)).toPath ∈ visited ∧
          store.lookup (Path.descend path (front ++ [name])) = some .directory ∧
            (store.resolve (Path.descend path (front ++ [name]))).toPath ∉ visited := by
  induction names generalizing path with
  | nil => exact absurd entered missed
  | cons first rest inductionHypothesis =>
      by_cases firstEntered : (store.resolve (Path.join path "/" first)).toPath ∈ visited
      · obtain ⟨front, name, back, rfl, found⟩ :=
          inductionHypothesis leads.2 directory firstEntered missed
        exact ⟨first :: front, name, back, rfl, found⟩
      · exact ⟨[], first, rest, rfl, entered, leads.2.directory directory, firstEntered⟩

/-- If the directories listed in entered ones are entered, so are those that chains lead to. -/
theorem entered_of_leads
    (closed : ∀ canonical ∈ visited, ClosedAt store visited canonical)
    (leads : Leads store path names)
    (directory : store.lookup (Path.descend path names) = some .directory)
    (entered : (store.resolve path).toPath ∈ visited) :
    (store.resolve (Path.descend path names)).toPath ∈ visited := by
  by_contra missed
  obtain ⟨front, name, back, rfl, frontEntered, isDirectory, nameMissed⟩ :=
    exists_unentered_of_leads leads directory entered missed
  obtain ⟨_, lists, _⟩ := leads.of_append
  rw [Path.descend_concat] at isDirectory nameMissed
  have listed := List.mem_map_of_mem (f := Path.join (Path.descend path front) "/")
    (lists_iff.mp lists).2
  exact nameMissed (closed _ frontEntered _ _ rfl listed isDirectory)

end Leads

end Scan
end Baseline
