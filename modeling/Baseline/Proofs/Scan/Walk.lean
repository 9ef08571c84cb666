import Baseline.Proofs.Store.WellFormed
import Baseline.Scan

/-!
# Scans of a store

A scan of a store never fails: it is the walk `walk`, which carries the
directories entered so far along and gives the files found (`scan_eq`).  What a
walk does at a path depends only on the entry that the path leads to, and an entry
of a directory leads where its name leads from the location of the directory
(`Store.resolve_join`).
-/

namespace Baseline
namespace Store

/-- The paths of the entries of a directory, in the order of its listing. -/
def childPaths (store : Store) (path : String) : List String :=
  (store.namesIn (store.resolve path)).map (Path.join path "/")

/-- The entry that a resolved location holds; the root is a directory. -/
def entryAt (store : Store) (location : Location) : Option Entry :=
  match location with
  | [] => some .directory
  | location => store.find? location

variable {store : Store} {path name : String} {location : Location}

theorem lookup_eq_entryAt (store : Store) (path : String) :
    store.lookup path = store.entryAt (store.resolve path) := rfl

end Store

namespace Scan

/-- Walk from some paths one after the other. -/
def walkEach (walk : String → List String → List String × List String) :
    List String → List String → List String × List String
  | [], visited => ([], visited)
  | path :: rest, visited =>
      let (found, entered) := walk path visited
      let (later, last) := walkEach walk rest entered
      (found ++ later, last)

/-- The source at a path that leads to no directory, if there is one. -/
def sourceAt (store : Store) (options : ScanOptions) (path : String) : List String :=
  match store.lookup path with
  | some (.file _) => if Path.hasExtension path options.sourceExtension then [path] else []
  | _ => []

/-- The sources at or below a path and the directories entered until they are
found, directories being entered through at most `levels` levels. -/
def walk (store : Store) (options : ScanOptions) (levels : Nat) (path : String)
    (visited : List String) : List String × List String :=
  if store.lookup path = some .directory then
    match levels with
    | 0 => ([], visited)
    | levels + 1 =>
        if options.detectCycles then
          let canonical := (store.resolve path).toPath
          if visited.contains canonical then ([], visited)
          else walkEach (walk store options levels) (store.childPaths path) (canonical :: visited)
        else walkEach (walk store options levels) (store.childPaths path) visited
  else (sourceAt store options path, visited)

variable
  {store : Store}
  {options : ScanOptions}
  {levels : Nat}
  {path : String}
  {visited : List String}

/-! ## One step of a walk -/

theorem walkEach_cons
    (step : String → List String → List String × List String)
    (path : String)
    (rest visited : List String) :
    walkEach step (path :: rest) visited =
      ((step path visited).1 ++ (walkEach step rest (step path visited).2).1,
        (walkEach step rest (step path visited).2).2) := rfl

theorem sourceAt_of_source
    {content : String}
    (file : store.lookup path = some (.file content))
    (named : Path.hasExtension path options.sourceExtension) :
    sourceAt store options path = [path] := by
  rw [sourceAt, file]
  exact if_pos named

theorem sourceAt_of_not_source
    (noSource : ∀ content, store.lookup path = some (.file content) →
      Path.hasExtension path options.sourceExtension = false) :
    sourceAt store options path = [] := by
  unfold sourceAt
  split
  next content held => rw [noSource content held, if_neg Bool.false_ne_true]
  next => rfl

theorem mem_sourceAt {file : String} :
    file ∈ sourceAt store options path ↔
      file = path ∧ (∃ content, store.lookup path = some (.file content)) ∧
        Path.hasExtension path options.sourceExtension := by
  by_cases source : (∃ content, store.lookup path = some (.file content)) ∧
      Path.hasExtension path options.sourceExtension
  · obtain ⟨⟨content, held⟩, named⟩ := source
    rw [sourceAt_of_source held named, List.mem_singleton]
    exact ⟨fun equal => ⟨equal, ⟨content, held⟩, named⟩, And.left⟩
  · rw [sourceAt_of_not_source fun content held =>
      Bool.eq_false_iff.mpr fun named => source ⟨⟨content, held⟩, named⟩]
    exact ⟨fun member => absurd member List.not_mem_nil, fun found => absurd found.2 source⟩

theorem walk_of_ne_directory (notDirectory : store.lookup path ≠ some .directory) :
    walk store options levels path visited = (sourceAt store options path, visited) := by
  rw [walk.eq_def, if_neg notDirectory]

theorem walk_of_cut (directory : store.lookup path = some .directory) :
    walk store options 0 path visited = ([], visited) := by
  rw [walk.eq_def, if_pos directory]

theorem walk_of_visited
    (directory : store.lookup path = some .directory)
    (detecting : options.detectCycles = true)
    (entered : (store.resolve path).toPath ∈ visited) :
    walk store options (levels + 1) path visited = ([], visited) := by
  rw [walk.eq_def, if_pos directory]
  simp only [if_pos detecting]
  rw [if_pos (List.contains_iff_mem.mpr entered)]

theorem walk_of_entered
    (directory : store.lookup path = some .directory)
    (detecting : options.detectCycles = true)
    (fresh : (store.resolve path).toPath ∉ visited) :
    walk store options (levels + 1) path visited =
      walkEach (walk store options levels) (store.childPaths path)
        ((store.resolve path).toPath :: visited) := by
  rw [walk.eq_def, if_pos directory]
  simp only [if_pos detecting]
  rw [if_neg (mt List.contains_iff_mem.mp fresh)]

theorem walk_of_undetecting
    (directory : store.lookup path = some .directory)
    (careless : options.detectCycles = false) :
    walk store options (levels + 1) path visited =
      walkEach (walk store options levels) (store.childPaths path) visited := by
  rw [walk.eq_def, if_pos directory]
  simp only [careless]
  rw [if_neg Bool.false_ne_true]

theorem walk_of_directory
    (directory : store.lookup path = some .directory)
    (options : ScanOptions)
    (levels : Nat)
    (visited : List String) :
    (walk store options levels path visited).1 = [] ∨
      ∃ fewer entered,
        levels = fewer + 1 ∧
          walk store options levels path visited =
            walkEach (walk store options fewer) (store.childPaths path) entered := by
  cases levels with
  | zero =>
      rw [walk_of_cut directory]
      exact .inl rfl
  | succ fewer =>
      cases detecting : options.detectCycles with
      | false => exact .inr ⟨fewer, visited, rfl, walk_of_undetecting directory detecting⟩
      | true =>
          by_cases entered : (store.resolve path).toPath ∈ visited
          · rw [walk_of_visited directory detecting entered]
            exact .inl rfl
          · exact .inr ⟨fewer, _, rfl, walk_of_entered directory detecting entered⟩

/-- What all the walks find together is found by one of them. -/
theorem exists_of_mem_walkEach
    {step : String → List String → List String × List String}
    {file : String}
    {paths : List String}
    (member : file ∈ (walkEach step paths visited).1) :
    ∃ path ∈ paths, ∃ entered, file ∈ (step path entered).1 := by
  induction paths generalizing visited with
  | nil => cases member
  | cons first rest inductionHypothesis =>
      rcases List.mem_append.mp member with now | later
      · exact ⟨first, List.mem_cons_self, visited, now⟩
      · obtain ⟨path, present, found⟩ := inductionHypothesis later
        exact ⟨path, List.mem_cons_of_mem _ present, found⟩

/-- A walk finds sources. -/
theorem mem_sourceAt_of_mem_walk
    {file : String}
    (member : file ∈ (walk store options levels path visited).1) :
    file ∈ sourceAt store options file := by
  induction levels using Nat.strongRecOn generalizing path visited with
  | ind levels inductionHypothesis =>
      by_cases directory : store.lookup path = some .directory
      · rcases walk_of_directory directory options levels visited with
          none | ⟨fewer, entered, rfl, walk_eq⟩
        · rw [none] at member
          cases member
        · rw [walk_eq] at member
          obtain ⟨child, _, _, found⟩ := exists_of_mem_walkEach member
          exact inductionHypothesis fewer (Nat.lt_succ_self fewer) found
      · rw [walk_of_ne_directory directory] at member
        have same := (mem_sourceAt.mp member).1
        subst same
        exact member

/-! ## Scans are walks -/

theorem run_bind_of_ok
    {α β : Type}
    {action : ScanAction α}
    {next : α → ScanAction β}
    {value : α}
    {after : List String}
    (ran : action.run visited = .ok (value, after)) :
    (action >>= next).run visited = (next value).run after := by
  rw [StateT.run_bind, ran]
  rfl

theorem each_run
    {scan : String → ScanAction (List String)}
    {walk : String → List String → List String × List String}
    (runs : ∀ path visited, (scan path).run visited = .ok (walk path visited))
    (paths : List String)
    (visited : List String) :
    (each scan paths).run visited = .ok (walkEach walk paths visited) := by
  induction paths generalizing visited with
  | nil => rfl
  | cons path rest inductionHypothesis =>
      rw [each, run_bind_of_ok (runs path visited), run_bind_of_ok (inductionHypothesis _)]
      rfl

theorem ask_run {α : Type} (path : String) (value : α) (visited : List String) :
    (ask path (.ok value)).run visited = .ok (value, visited) := rfl

section Answers

variable {entry : Entry}

theorem present_of_lookup (found : store.lookup path = some entry) :
    FileAccess.present store path = true := by
  change (store.lookup path).isSome = true
  rw [found]
  rfl

theorem isFile_of_lookup (found : store.lookup path = some entry) :
    FileAccess.isFile store path = .ok entry.isFile := by
  change store.isFile path = _
  rw [Store.isFile, Store.lookupOrFail, found]
  cases entry <;> rfl

theorem isDirectory_of_lookup (found : store.lookup path = some entry) :
    FileAccess.isDirectory store path = .ok entry.isDirectory := by
  change store.isDirectory path = _
  rw [Store.isDirectory, Store.lookupOrFail, found]
  cases entry <;> rfl

theorem canonicalPath_of_lookup (found : store.lookup path = some entry) :
    FileAccess.canonicalPath store path = .ok (store.resolve path).toPath := by
  change store.canonicalPath path = _
  rw [Store.canonicalPath, Store.lookupOrFail, found]
  rfl

theorem list_of_lookup (directory : store.lookup path = some .directory) :
    FileAccess.list store path = .ok (store.namesIn (store.resolve path)) := by
  change store.list path = _
  have isDirectory : store.isDirectory path = .ok true := isDirectory_of_lookup directory
  rw [Store.list, isDirectory]
  rfl

end Answers

/-- What a scan does at a path, given what it does in a directory. -/
def look
    (store : Store)
    (options : ScanOptions)
    (path : String)
    (inside : ScanAction (List String)) :
    ScanAction (List String) := do
  if !FileAccess.present store path then return []
  if ← ask path (FileAccess.isFile store path) then
    return if Path.hasExtension path options.sourceExtension then [path] else []
  if !(← ask path (FileAccess.isDirectory store path)) then return []
  inside

/-- What a scan does in a directory, given what it does at the entries. -/
def descend
    (store : Store)
    (options : ScanOptions)
    (path : String)
    (scan : String → ScanAction (List String)) :
    ScanAction (List String) := do
  if !(← mayEnter store options path) then return []
  let names ← ask path (FileAccess.list store path)
  each scan (names.map (Path.join path (FileAccess.separator store)))

theorem below_zero (store : Store) (options : ScanOptions) (path : String) :
    below store options 0 path = look store options path (pure []) := rfl

theorem below_succ (store : Store) (options : ScanOptions) (levels : Nat) (path : String) :
    below store options (levels + 1) path =
      look store options path (descend store options path (below store options levels)) := rfl

/-- Anywhere but in a directory a scan does what a walk does. -/
theorem look_run_of_ne_directory
    (inside : ScanAction (List String))
    (notDirectory : store.lookup path ≠ some .directory) :
    (look store options path inside).run visited =
      .ok (walk store options levels path visited) := by
  rw [walk_of_ne_directory notDirectory, sourceAt]
  cases held : store.lookup path with
  | none =>
      have nothing : FileAccess.present store path = false := by
        change (store.lookup path).isSome = false
        rw [held]
        rfl
      rw [look, nothing]
      rfl
  | some entry =>
      cases entry with
      | file content =>
          rw [look, present_of_lookup held, isFile_of_lookup held]
          rfl
      | directory => exact absurd held notDirectory
      | link target =>
          rw [look, present_of_lookup held, isFile_of_lookup held, isDirectory_of_lookup held]
          rfl

theorem look_run_of_directory
    (inside : ScanAction (List String))
    (directory : store.lookup path = some .directory) :
    (look store options path inside).run visited = inside.run visited := by
  rw [look, present_of_lookup directory, isFile_of_lookup directory,
    isDirectory_of_lookup directory]
  rfl

theorem mayEnter_run
    {entry : Entry}
    (found : store.lookup path = some entry)
    (options : ScanOptions)
    (visited : List String) :
    (mayEnter store options path).run visited =
      if options.detectCycles then (enter (store.resolve path).toPath).run visited
      else .ok (true, visited) := by
  rw [mayEnter]
  split
  · rw [canonicalPath_of_lookup found, run_bind_of_ok (ask_run path _ visited)]
  · rfl

theorem enter_run (canonical : String) (visited : List String) :
    (enter canonical).run visited =
      .ok (if visited.contains canonical then (false, visited)
        else (true, canonical :: visited)) := by
  have getting : (get : ScanAction (List String)).run visited = .ok (visited, visited) := rfl
  rw [enter, run_bind_of_ok getting]
  split
  · rfl
  · rfl

/-- Below a directory a scan does what a walk does, if it does so at the
entries. -/
theorem descend_run
    (directory : store.lookup path = some .directory)
    (runs : ∀ path visited, (below store options levels path).run visited =
      .ok (walk store options levels path visited)) :
    (descend store options path (below store options levels)).run visited =
      .ok (walk store options (levels + 1) path visited) := by
  have inside (entered : List String) :
      ((do
        let names ← ask path (FileAccess.list store path)
        each (below store options levels)
          (names.map (Path.join path (FileAccess.separator store))) :
        ScanAction (List String))).run entered =
      .ok (walkEach (walk store options levels) (store.childPaths path) entered) := by
    rw [list_of_lookup directory, run_bind_of_ok (ask_run path _ entered)]
    exact each_run runs (store.childPaths path) entered
  have mayEnter_eq := mayEnter_run directory options visited
  cases detecting : options.detectCycles with
  | false =>
      rw [detecting, if_neg Bool.false_ne_true] at mayEnter_eq
      rw [descend, run_bind_of_ok mayEnter_eq, walk_of_undetecting directory detecting]
      exact inside visited
  | true =>
      rw [detecting, if_pos rfl, enter_run] at mayEnter_eq
      by_cases entered : (store.resolve path).toPath ∈ visited
      · rw [if_pos (List.contains_iff_mem.mpr entered)] at mayEnter_eq
        rw [descend, run_bind_of_ok mayEnter_eq, walk_of_visited directory detecting entered]
        rfl
      · rw [if_neg (mt List.contains_iff_mem.mp entered)] at mayEnter_eq
        rw [descend, run_bind_of_ok mayEnter_eq, walk_of_entered directory detecting entered]
        exact inside _

/-- A scan below a path is a walk. -/
theorem below_run
    (store : Store)
    (options : ScanOptions)
    (levels : Nat)
    (path : String)
    (visited : List String) :
    (below store options levels path).run visited =
      .ok (walk store options levels path visited) := by
  induction levels generalizing path visited with
  | zero =>
      rw [below_zero]
      by_cases directory : store.lookup path = some .directory
      · rw [look_run_of_directory _ directory, walk_of_cut directory]
        rfl
      · exact look_run_of_ne_directory _ directory
  | succ levels inductionHypothesis =>
      rw [below_succ]
      by_cases directory : store.lookup path = some .directory
      · rw [look_run_of_directory _ directory, descend_run directory inductionHypothesis]
      · exact look_run_of_ne_directory _ directory

/-- A scan of a store gives what a walk from nowhere visited finds. -/
theorem scan_eq (store : Store) (options : ScanOptions) (path : String) :
    scan store options path = .ok (walk store options (options.maxDepth + 1) path []).1 := by
  rw [scan, StateT.run'_eq, below_run]
  rfl

end Scan
end Baseline
