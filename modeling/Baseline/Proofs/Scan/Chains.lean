import Baseline.Proofs.Scan.Linkless

/-!
# Chains of names

A chain of names leads from a path through the listings of directories (`Leads`).  A
scan that does not detect cycles finds the sources at the ends of all chains that are
not longer than its depth limit allows, each of them once and in depth-first order of
the listings (`scan_finds_chains`).  Links make no difference: a path through a link is
a path of its own.  Every scan finds nothing but ends of chains (`exists_leads_of_scan`), and
they are named by different locations (`pairwise_of_scan`).
-/

namespace Baseline

namespace Path

/-- The path that names lead to, one after the other. -/
def descend (path : String) : List String → String
  | [] => path
  | name :: rest => descend (join path "/" name) rest

@[simp] theorem descend_nil (path : String) : descend path [] = path := rfl

@[simp] theorem descend_cons (path name : String) (rest : List String) :
    descend path (name :: rest) = descend (join path "/" name) rest := rfl

theorem descend_append (path : String) (front back : List String) :
    descend path (front ++ back) = descend (descend path front) back := by
  induction front generalizing path with
  | nil => rfl
  | cons first rest inductionHypothesis => exact inductionHypothesis (join path "/" first)

theorem descend_concat (path name : String) (names : List String) :
    descend path (names ++ [name]) = join (descend path names) "/" name :=
  descend_append path names [name]

/-- The location is the one of the path, followed by the names. -/
theorem ofPath_descend
    {names : List String}
    (proper : Location.Proper names)
    (path : String) :
    Location.ofPath (descend path names) = .ofPath path ++ names := by
  induction names generalizing path with
  | nil => exact (List.append_nil _).symm
  | cons name rest inductionHypothesis =>
      obtain ⟨nameProper, restProper⟩ := List.forall_mem_cons.mp proper
      rw [descend_cons, inductionHypothesis restProper, ofPath_join path nameProper,
        List.append_assoc, List.singleton_append]

/-- The path of an entry does not end in a slash. -/
theorem trunk_join
    {name : String}
    (proper : Location.IsProper name)
    (directory : String) :
    trunk (join directory "/" name) = join directory "/" name := by
  have nonempty : name.toList ≠ [] := by
    intro empty
    rw [Location.IsProper, empty] at proper
    cases proper.1
  rcases trunk_eq_or (join directory "/" name) with ends | same
  · have ended : ((trunk directory).toList ++ "/".toList) ++ name.toList =
        (trunk (join directory "/" name)).toList ++ ['/'] := by
      rw [← String.toList_append, ← String.toList_append, ← join_eq_trunk]
      exact (congrArg String.toList ends).trans String.toList_append
    have last := congrArg List.getLast? ended
    rw [List.getLast?_append_of_ne_nil _ nonempty, List.getLast?_concat] at last
    exact absurd (List.mem_of_getLast? last) proper.2
  · exact same.symm

/-- Below the path the names are joined with slashes. -/
theorem descend_eq_trunk
    {names : List String}
    (proper : Location.Proper names)
    (nonempty : names ≠ [])
    (path : String) :
    descend path names = trunk path ++ "/" ++ Location.toPath names := by
  induction names generalizing path with
  | nil => exact absurd rfl nonempty
  | cons name rest inductionHypothesis =>
      obtain ⟨nameProper, restProper⟩ := List.forall_mem_cons.mp proper
      cases rest with
      | nil => rw [descend_cons, descend_nil, join_eq_trunk, Location.toPath_singleton]
      | cons second rest =>
          rw [descend_cons, inductionHypothesis restProper (List.cons_ne_nil _ _),
            trunk_join nameProper, join_eq_trunk, Location.toPath_cons_cons]
          simp only [String.append_assoc]

end Path

namespace Scan

variable
  {store : Store}
  {options : ScanOptions}
  {levels : Nat}
  {path name extension : String}
  {names left right : List String}

/-- A directory is at the path, and it lists the name. -/
def Lists (store : Store) (path name : String) : Prop :=
  store.isDirectory path = .ok true ∧ ∃ names, store.list path = .ok names ∧ name ∈ names

/-- Each name is listed in the directory that the names before it lead to. -/
def Leads (store : Store) : String → List String → Prop
  | _, [] => True
  | path, name :: rest => Lists store path name ∧ Leads store (Path.join path "/" name) rest

/-- A file with the extension is at the path. -/
def IsSource (store : Store) (extension path : String) : Prop :=
  store.isFile path = .ok true ∧ Path.hasExtension path extension

/-- Where two chains of names part, the name in the left one is listed before the name in
the right one. -/
inductive Precedes (store : Store) : String → List String → List String → Prop
  /-- The chains part at the first names. -/
  | here {path left right : String} {listing leftRest rightRest : List String} :
      store.list path = .ok listing →
      [left, right].Sublist listing →
      Precedes store path (left :: leftRest) (right :: rightRest)
  /-- The chains have the first name in common. -/
  | there {path name : String} {left right : List String} :
      Precedes store (Path.join path "/" name) left right →
      Precedes store path (name :: left) (name :: right)

/-! ## Directories and sources -/

theorem isDirectory_eq_ok_true_iff :
    store.isDirectory path = .ok true ↔ store.lookup path = some .directory := by
  rw [Store.isDirectory, Store.lookupOrFail]
  cases held : store.lookup path with
  | none =>
      constructor
      · intro answer
        cases answer
      · intro found
        cases found
  | some entry => cases entry <;> simp [bind, Except.bind, pure, Except.pure]

theorem isFile_eq_ok_true_iff :
    store.isFile path = .ok true ↔ ∃ content, store.lookup path = some (.file content) := by
  rw [Store.isFile, Store.lookupOrFail]
  cases held : store.lookup path with
  | none =>
      constructor
      · intro answer
        cases answer
      · rintro ⟨_, found⟩
        cases found
  | some entry => cases entry <;> simp [bind, Except.bind, pure, Except.pure]

theorem list_eq_ok_iff :
    store.list path = .ok names ↔
      store.lookup path = some .directory ∧ store.namesIn (store.resolve path) = names := by
  by_cases directory : store.lookup path = some .directory
  · have listed : store.list path = .ok (store.namesIn (store.resolve path)) :=
      list_of_lookup directory
    rw [listed, Except.ok.injEq, and_iff_right directory]
  · refine ⟨fun listed => ?_, fun found => absurd found.1 directory⟩
    rw [Store.list] at listed
    cases answer : store.isDirectory path with
    | error error =>
        rw [answer] at listed
        cases listed
    | ok isDirectory =>
        cases isDirectory with
        | true => exact absurd (isDirectory_eq_ok_true_iff.mp answer) directory
        | false =>
            rw [answer] at listed
            cases listed

theorem lists_iff :
    Lists store path name ↔
      store.lookup path = some .directory ∧ name ∈ store.namesIn (store.resolve path) := by
  rw [Lists, isDirectory_eq_ok_true_iff]
  constructor
  · rintro ⟨directory, names, listed, member⟩
    rw [(list_eq_ok_iff.mp listed).2]
    exact ⟨directory, member⟩
  · rintro ⟨directory, member⟩
    exact ⟨directory, _, list_eq_ok_iff.mpr ⟨directory, rfl⟩, member⟩

theorem isSource_iff_mem_sourceAt :
    IsSource store options.sourceExtension path ↔ path ∈ sourceAt store options path := by
  rw [IsSource, isFile_eq_ok_true_iff, mem_sourceAt]
  exact ⟨fun source => ⟨rfl, source⟩, And.right⟩

theorem sourceAt_eq_nil_or (store : Store) (options : ScanOptions) (path : String) :
    sourceAt store options path = [] ∨ sourceAt store options path = [path] := by
  unfold sourceAt
  split
  · split
    · exact .inr rfl
    · exact .inl rfl
  · exact .inl rfl

/-- A source is no directory. -/
theorem IsSource.lookup_ne_directory (source : IsSource store extension path) :
    store.lookup path ≠ some .directory := by
  obtain ⟨content, held⟩ := isFile_eq_ok_true_iff.mp source.1
  rw [held]
  exact fun equal => nomatch equal

/-- A chain from anything but a directory is empty. -/
theorem Leads.eq_nil
    (leads : Leads store path names)
    (notDirectory : store.lookup path ≠ some .directory) :
    names = [] := by
  cases names with
  | nil => rfl
  | cons name rest => exact absurd (lists_iff.mp leads.1).1 notDirectory

theorem Leads.proper
    (wellFormed : store.WellFormed)
    (leads : Leads store path names) :
    Location.Proper names := by
  induction names generalizing path with
  | nil => exact List.forall_mem_nil _
  | cons name rest inductionHypothesis =>
      have nameProper := wellFormed.name_proper (lists_iff.mp leads.1).2
      exact List.forall_mem_cons.mpr ⟨nameProper, inductionHypothesis leads.2⟩

/-- A chain in two parts: the second part leads on from where the first one leads to. -/
theorem Leads.of_append
    {front back : List String}
    (leads : Leads store path (front ++ back)) :
    Leads store path front ∧ Leads store (Path.descend path front) back := by
  induction front generalizing path with
  | nil => exact ⟨trivial, leads⟩
  | cons first rest inductionHypothesis =>
      obtain ⟨restLeads, later⟩ := inductionHypothesis leads.2
      exact ⟨⟨leads.1, restLeads⟩, later⟩

/-- A chain to a directory starts at one. -/
theorem Leads.directory
    (leads : Leads store path names)
    (directory : store.lookup (Path.descend path names) = some .directory) :
    store.lookup path = some .directory := by
  cases names with
  | nil => exact directory
  | cons name rest => exact (lists_iff.mp leads.1).1

/-- The names before the last lead to the directory that lists the last. -/
theorem Leads.concat (leads : Leads store path (names ++ [name])) :
    Leads store path names ∧ Lists store (Path.descend path names) name := by
  obtain ⟨frontLeads, lists, _⟩ := leads.of_append
  exact ⟨frontLeads, lists⟩

/-- A chain goes on with a name that is listed where the chain leads to. -/
theorem Leads.snoc
    (leads : Leads store path names)
    (lists : Lists store (Path.descend path names) name) :
    Leads store path (names ++ [name]) := by
  induction names generalizing path with
  | nil => exact ⟨lists, trivial⟩
  | cons first rest inductionHypothesis => exact ⟨leads.1, inductionHypothesis leads.2 lists⟩

/-! ## All chains to sources -/

/-- The chains of at most `levels` names that lead from a path to sources, in depth-first
order of the listings. -/
def chains (store : Store) (options : ScanOptions) (levels : Nat) (path : String) :
    List (List String) :=
  if store.lookup path = some .directory then
    match levels with
    | 0 => []
    | levels + 1 =>
        (store.namesIn (store.resolve path)).flatMap fun name =>
          (chains store options levels (Path.join path "/" name)).map (List.cons name)
  else (sourceAt store options path).map fun _ => []

theorem chains_of_ne_directory (notDirectory : store.lookup path ≠ some .directory) :
    chains store options levels path = (sourceAt store options path).map fun _ => [] := by
  rw [chains.eq_def, if_neg notDirectory]

theorem chains_of_cut (directory : store.lookup path = some .directory) :
    chains store options 0 path = [] := by
  rw [chains.eq_def, if_pos directory]

theorem chains_of_directory (directory : store.lookup path = some .directory) :
    chains store options (levels + 1) path =
      (store.namesIn (store.resolve path)).flatMap fun name =>
        (chains store options levels (Path.join path "/" name)).map (List.cons name) := by
  rw [chains.eq_def, if_pos directory]

theorem mem_chains_of_ne_directory (notDirectory : store.lookup path ≠ some .directory) :
    names ∈ chains store options levels path ↔
      names = [] ∧ IsSource store options.sourceExtension path := by
  rw [chains_of_ne_directory notDirectory, List.mem_map]
  constructor
  · rintro ⟨file, member, rfl⟩
    have same := (mem_sourceAt.mp member).1
    subst same
    exact ⟨rfl, isSource_iff_mem_sourceAt.mpr member⟩
  · rintro ⟨rfl, source⟩
    exact ⟨path, isSource_iff_mem_sourceAt.mp source, rfl⟩

/-- The chains are those that are not too long and lead to sources. -/
theorem mem_chains_iff :
    names ∈ chains store options levels path ↔
      names.length ≤ levels ∧ Leads store path names ∧
        IsSource store options.sourceExtension (Path.descend path names) := by
  induction levels generalizing path names with
  | zero =>
      rw [Nat.le_zero, List.length_eq_zero_iff]
      by_cases directory : store.lookup path = some .directory
      · rw [chains_of_cut directory]
        refine ⟨fun member => absurd member List.not_mem_nil, ?_⟩
        rintro ⟨rfl, _, source⟩
        exact absurd directory source.lookup_ne_directory
      · rw [mem_chains_of_ne_directory directory]
        constructor
        · rintro ⟨rfl, source⟩
          exact ⟨rfl, trivial, source⟩
        · rintro ⟨rfl, _, source⟩
          exact ⟨rfl, source⟩
  | succ levels inductionHypothesis =>
      by_cases directory : store.lookup path = some .directory
      · rw [chains_of_directory directory, List.mem_flatMap]
        constructor
        · rintro ⟨name, listed, member⟩
          obtain ⟨rest, restMember, rfl⟩ := List.mem_map.mp member
          obtain ⟨short, leads, source⟩ := inductionHypothesis.mp restMember
          exact ⟨Nat.succ_le_succ short, ⟨lists_iff.mpr ⟨directory, listed⟩, leads⟩, source⟩
        · rintro ⟨short, leads, source⟩
          cases names with
          | nil => exact absurd directory source.lookup_ne_directory
          | cons name rest =>
              refine ⟨name, (lists_iff.mp leads.1).2, List.mem_map_of_mem ?_⟩
              exact inductionHypothesis.mpr ⟨Nat.le_of_succ_le_succ short, leads.2, source⟩
      · rw [mem_chains_of_ne_directory directory]
        constructor
        · rintro ⟨rfl, source⟩
          exact ⟨Nat.zero_le _, trivial, source⟩
        · rintro ⟨_, leads, source⟩
          have empty := leads.eq_nil directory
          subst empty
          exact ⟨rfl, source⟩

/-- The chains are in the order of the listings. -/
theorem pairwise_chains
    (store : Store)
    (options : ScanOptions)
    (levels : Nat)
    (path : String) :
    (chains store options levels path).Pairwise (Precedes store path) := by
  have elsewhere {levels : Nat} {path : String}
      (notDirectory : store.lookup path ≠ some .directory) :
      (chains store options levels path).Pairwise (Precedes store path) := by
    rw [chains_of_ne_directory notDirectory]
    rcases sourceAt_eq_nil_or store options path with none | one
    · rw [none]
      exact .nil
    · rw [one]
      exact List.pairwise_singleton _ _
  induction levels generalizing path with
  | zero =>
      by_cases directory : store.lookup path = some .directory
      · rw [chains_of_cut directory]
        exact .nil
      · exact elsewhere directory
  | succ levels inductionHypothesis =>
      by_cases directory : store.lookup path = some .directory
      · rw [chains_of_directory directory, List.pairwise_flatMap]
        constructor
        · intro name _
          rw [List.pairwise_map]
          exact (inductionHypothesis (Path.join path "/" name)).imp .there
        · rw [List.pairwise_iff_forall_sublist]
          intro left right inOrder leftChain leftMember rightChain rightMember
          obtain ⟨leftRest, _, rfl⟩ := List.mem_map.mp leftMember
          obtain ⟨rightRest, _, rfl⟩ := List.mem_map.mp rightMember
          exact .here (list_eq_ok_iff.mpr ⟨directory, rfl⟩) inOrder
      · exact elsewhere directory

/-- Chains in order are different, because a directory lists every name once. -/
theorem Precedes.ne
    (wellFormed : store.WellFormed)
    (precedes : Precedes store path left right) :
    left ≠ right := by
  induction precedes with
  | @here path left right listing _ _ listed inOrder =>
      obtain ⟨_, rfl⟩ := list_eq_ok_iff.mp listed
      have distinct := (wellFormed.nodup_namesIn (store.resolve path)).sublist inOrder
      have different : left ≠ right := List.pairwise_pair.mp distinct
      exact fun equal => different (List.cons.inj equal).1
  | there _ inductionHypothesis =>
      intro equal
      exact inductionHypothesis (List.cons.inj equal).2

/-! ## Scans without detection -/

theorem walkEach_found
    {step : String → List String → List String × List String}
    {found : String → List String}
    (paths : List String)
    (steps : ∀ path ∈ paths, ∀ visited, (step path visited).1 = found path)
    (visited : List String) :
    (walkEach step paths visited).1 = paths.flatMap found := by
  induction paths generalizing visited with
  | nil => rfl
  | cons path rest inductionHypothesis =>
      obtain ⟨now, later⟩ := List.forall_mem_cons.mp steps
      rw [walkEach_cons, now, inductionHypothesis later, List.flatMap_cons]

/-- Anywhere but in a directory, the only chain is the empty one. -/
theorem map_descend_chains_of_ne_directory
    (notDirectory : store.lookup path ≠ some .directory) :
    (chains store options levels path).map (Path.descend path) = sourceAt store options path := by
  rw [chains_of_ne_directory notDirectory]
  rcases sourceAt_eq_nil_or store options path with none | one
  · rw [none]
    rfl
  · rw [one]
    rfl

/-- In a directory, the chains go on from its entries. -/
theorem map_descend_chains_of_directory (directory : store.lookup path = some .directory) :
    (chains store options (levels + 1) path).map (Path.descend path) =
      (store.childPaths path).flatMap fun child =>
        (chains store options levels child).map (Path.descend child) := by
  rw [chains_of_directory directory, Store.childPaths, List.flatMap_map, List.map_flatMap]
  simp only [List.map_map]
  rfl

/-- A walk without detection finds the ends of the chains. -/
theorem walk_eq_chains
    (careless : options.detectCycles = false)
    (levels : Nat)
    (path : String)
    (visited : List String) :
    (walk store options levels path visited).1 =
      (chains store options levels path).map (Path.descend path) := by
  induction levels generalizing path visited with
  | zero =>
      by_cases directory : store.lookup path = some .directory
      · rw [walk_of_cut directory, chains_of_cut directory]
        rfl
      · rw [walk_of_ne_directory directory, map_descend_chains_of_ne_directory directory]
  | succ levels inductionHypothesis =>
      by_cases directory : store.lookup path = some .directory
      · rw [walk_of_undetecting directory careless, map_descend_chains_of_directory directory,
          walkEach_found _ fun child _ => inductionHypothesis child]
      · rw [walk_of_ne_directory directory, map_descend_chains_of_ne_directory directory]

/-- The ends of the chains are named by different locations. -/
theorem pairwise_ofPath_descend_chains
    (wellFormed : store.WellFormed)
    (options : ScanOptions)
    (levels : Nat)
    (path : String) :
    ((chains store options levels path).map (Path.descend path)).Pairwise
      fun left right => Location.ofPath left ≠ .ofPath right := by
  rw [List.pairwise_map]
  refine (pairwise_chains store options levels path).imp_of_mem ?_
  intro left right leftMember rightMember precedes equal
  have leftProper := (mem_chains_iff.mp leftMember).2.1.proper wellFormed
  have rightProper := (mem_chains_iff.mp rightMember).2.1.proper wellFormed
  rw [Path.ofPath_descend leftProper, Path.ofPath_descend rightProper] at equal
  exact precedes.ne wellFormed (List.append_cancel_left equal)

/-- The ends of the chains are pairwise different. -/
theorem nodup_map_descend_chains
    (wellFormed : store.WellFormed)
    (options : ScanOptions)
    (levels : Nat)
    (path : String) :
    ((chains store options levels path).map (Path.descend path)).Nodup :=
  (pairwise_ofPath_descend_chains wellFormed options levels path).imp fun different equal =>
    different (congrArg Location.ofPath equal)

/-! ## All scans -/

theorem walkEach_sublist
    {step : String → List String → List String × List String}
    {found : String → List String}
    (steps : ∀ path visited, (step path visited).1.Sublist (found path))
    (paths visited : List String) :
    (walkEach step paths visited).1.Sublist (paths.flatMap found) := by
  induction paths generalizing visited with
  | nil => exact List.nil_sublist _
  | cons path rest inductionHypothesis =>
      rw [walkEach_cons, List.flatMap_cons]
      exact (steps path visited).append (inductionHypothesis _)

/-- With detection or without, a walk finds nothing but ends of chains, in their order. -/
theorem walk_sublist_chains
    (store : Store)
    (options : ScanOptions)
    (levels : Nat)
    (path : String)
    (visited : List String) :
    (walk store options levels path visited).1.Sublist
      ((chains store options levels path).map (Path.descend path)) := by
  induction levels using Nat.strongRecOn generalizing path visited with
  | ind levels inductionHypothesis =>
      by_cases directory : store.lookup path = some .directory
      · rcases walk_of_directory directory options levels visited with
          nothing | ⟨fewer, entered, rfl, walk_eq⟩
        · rw [nothing]
          exact List.nil_sublist _
        · rw [walk_eq, map_descend_chains_of_directory directory]
          exact walkEach_sublist (inductionHypothesis fewer (Nat.lt_succ_self fewer)) _ entered
      · rw [walk_of_ne_directory directory, map_descend_chains_of_ne_directory directory]

section Found

variable {root : String} {paths : List String}

theorem scan_sublist_chains (found : scan store options root = .ok paths) :
    paths.Sublist ((chains store options (options.maxDepth + 1) root).map (Path.descend root)) := by
  rw [scan_eq] at found
  rw [← Except.ok.inj found]
  exact walk_sublist_chains store options (options.maxDepth + 1) root []

/-- Every source that a scan finds is at the end of a chain. -/
theorem exists_leads_of_scan
    (found : scan store options root = .ok paths)
    (member : path ∈ paths) :
    ∃ names,
      path = Path.descend root names ∧ Leads store root names ∧
        IsSource store options.sourceExtension path := by
  obtain ⟨names, chain, rfl⟩ := List.mem_map.mp ((scan_sublist_chains found).mem member)
  obtain ⟨_, leads, source⟩ := mem_chains_iff.mp chain
  exact ⟨names, rfl, leads, source⟩

/-- The sources that a scan finds are named by different locations. -/
theorem pairwise_of_scan
    (wellFormed : store.WellFormed)
    (found : scan store options root = .ok paths) :
    paths.Pairwise fun left right => Location.ofPath left ≠ .ofPath right :=
  (pairwise_ofPath_descend_chains wellFormed options _ root).sublist (scan_sublist_chains found)

theorem nodup_of_scan
    (wellFormed : store.WellFormed)
    (found : scan store options root = .ok paths) :
    paths.Nodup :=
  (nodup_map_descend_chains wellFormed options _ root).sublist (scan_sublist_chains found)

end Found

/-! ## Scans without links -/

/-- Without links, a path that names lead to lies in a directory. -/
theorem Leads.parent_eq
    {root : String}
    {names : List String}
    (leads : Leads store root names)
    (wellFormed : store.WellFormed)
    (linkless : store.Linkless)
    (nonempty : names ≠ []) :
    store.entryAt (Location.ofPath (Path.descend root names)).parent = some .directory := by
  obtain ⟨front, last, rfl⟩ := names.eq_nil_or_concat'.resolve_left nonempty
  obtain ⟨frontLeads, lists⟩ := leads.concat
  obtain ⟨directory, listed⟩ := lists_iff.mp lists
  rw [Path.descend_concat, Path.ofPath_join _ (wellFormed.name_proper listed), Location.parent,
    List.dropLast_concat, ← linkless.resolve_eq, ← Store.lookup_eq_entryAt]
  exact directory

/-- Without links, a scan finds sources in directories, or only one source. -/
theorem parent_of_mem_scan
    {root : String}
    {paths : List String}
    (wellFormed : store.WellFormed)
    (linkless : store.Linkless)
    (found : scan store options root = .ok paths)
    (member : path ∈ paths) :
    store.entryAt (Location.ofPath path).parent = some .directory ∨
      ∀ other ∈ paths, other = path := by
  obtain ⟨names, rfl, leads, source⟩ := exists_leads_of_scan found member
  by_cases nonempty : names ≠ []
  · exact .inl (leads.parent_eq wellFormed linkless nonempty)
  · right
    rw [not_not.mp nonempty] at source ⊢
    intro other otherMember
    obtain ⟨otherNames, rfl, otherLeads, _⟩ := exists_leads_of_scan found otherMember
    rw [otherLeads.eq_nil source.lookup_ne_directory]

/-- Without links, a scan of a directory finds sources in directories. -/
theorem parent_of_mem_scan_directory
    {root : String}
    {paths : List String}
    (wellFormed : store.WellFormed)
    (linkless : store.Linkless)
    (directory : store.isDirectory root = .ok true)
    (found : scan store options root = .ok paths)
    (member : path ∈ paths) :
    store.entryAt (Location.ofPath path).parent = some .directory := by
  obtain ⟨names, rfl, leads, source⟩ := exists_leads_of_scan found member
  refine leads.parent_eq wellFormed linkless ?_
  rintro rfl
  exact source.lookup_ne_directory (isDirectory_eq_ok_true_iff.mp directory)

/-! ## All scans without detection -/

/-- A scan without detection does not fail.  It finds the ends of exactly those chains
that lead to sources and are at most one name longer than the depth limit, each of them
once and in depth-first order of the listings.  Without links a scan that detects cycles
finds the same. -/
theorem scan_finds_chains
    {writers : List Store.Writer}
    (reachable : Store.Reachable store writers)
    (careless : options.detectCycles = false)
    (root : String) :
    ∃ found : List (List String),
      scan store options root = .ok (found.map (Path.descend root)) ∧
      (∀ names, names ∈ found ↔
        names.length ≤ options.maxDepth + 1 ∧ Leads store root names ∧
          IsSource store options.sourceExtension (Path.descend root names)) ∧
      (found.map (Path.descend root)).Nodup ∧
      found.Pairwise (Precedes store root) ∧
      (store.Linkless →
        scan store { options with detectCycles := true } root =
          .ok (found.map (Path.descend root))) := by
  have wellFormed := reachable.wellFormed
  have scanned : scan store options root =
      .ok ((chains store options (options.maxDepth + 1) root).map (Path.descend root)) := by
    rw [scan_eq, walk_eq_chains careless]
  refine ⟨chains store options (options.maxDepth + 1) root, scanned, fun _ => mem_chains_iff,
    nodup_map_descend_chains wellFormed options _ root, pairwise_chains store options _ root, ?_⟩
  intro linkless
  have same : ({ options with detectCycles := false } : ScanOptions) = options := by
    rw [← careless]
  rw [scan_eq_of_linkless wellFormed linkless rfl, same, scanned]

/-- A source, and a link back to the directory that lists it. -/
def loopStore : Store :=
  (Store.empty.withFile "root/a.src" "a").withLink "root/loop" "root"

theorem loopStore_reachable : Store.Reachable loopStore [] :=
  .withLink "root/loop" "root" (.withFile "root/a.src" "a" (.empty _))

/-- Through the link the source is found once for every level. -/
theorem scan_loopStore_finds_chains :
    Store.Reachable loopStore [] ∧
      scan loopStore ⟨"src", 2, false⟩ "root" =
        .ok ["root/a.src", "root/loop/a.src", "root/loop/loop/a.src"] ∧
      ∀ names, names.length ≤ 3 → Leads loopStore "root" names →
        IsSource loopStore "src" (Path.descend "root" names) →
        Path.descend "root" names ∈
          ["root/a.src", "root/loop/a.src", "root/loop/loop/a.src"] := by
  have scanned : scan loopStore ⟨"src", 2, false⟩ "root" =
      .ok ["root/a.src", "root/loop/a.src", "root/loop/loop/a.src"] := by
    decide +kernel
  obtain ⟨found, found_eq, found_iff, _⟩ :=
    scan_finds_chains loopStore_reachable (rfl : (⟨"src", 2, false⟩ : ScanOptions).detectCycles = _)
      "root"
  rw [scanned] at found_eq
  refine ⟨loopStore_reachable, scanned, fun names short leads source => ?_⟩
  rw [Except.ok.inj found_eq]
  exact List.mem_map_of_mem ((found_iff names).mpr ⟨short, leads, source⟩)

end Scan
end Baseline
