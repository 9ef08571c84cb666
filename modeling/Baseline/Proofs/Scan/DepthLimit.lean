import Baseline.Proofs.Scan.Aliases

/-!
# What the depth limit keeps out

A scan that detects cycles enters a directory once.  If it does so by a chain as long as the
depth limit, the directories listed in it are not entered from there, and not from a shorter
chain either, because the directory is passed over when it is met again.  Nothing else keeps a
directory out that is listed in an entered one (`walk_closedAt_or_atLimit`).  So detecting cycles
loses a source exactly if the directory around it is not entered, and then a directory on the
way to it is at the end of a chain as long as the limit (`detection_loses_only_unentered`).
-/

namespace Baseline
namespace Scan

variable
  {store : Store}
  {options : ScanOptions}
  {levels : Nat}
  {path name extension canonical : String}
  {names visited : List String}

/-! ## Directories at the limit -/

/-- A chain that needs all levels leads to a directory. -/
def AtLimit (store : Store) (levels : Nat) (path canonical : String) : Prop :=
  ∃ deep, deep.length + 1 = levels ∧ Leads store path deep ∧
    store.canonicalPath (Path.descend path deep) = .ok canonical

theorem atLimit_self (directory : store.lookup path = some .directory) :
    AtLimit store 1 path (store.resolve path).toPath :=
  ⟨[], rfl, trivial, canonicalPath_of_lookup directory⟩

/-- What needs all levels from an entry of a directory needs one more from the directory. -/
theorem AtLimit.of_child
    {child : String}
    (directory : store.lookup path = some .directory)
    (listed : child ∈ store.childPaths path)
    (atLimit : AtLimit store levels child canonical) :
    AtLimit store (levels + 1) path canonical := by
  obtain ⟨name, member, rfl⟩ := List.mem_map.mp listed
  obtain ⟨deep, length_eq, leads, canonical_eq⟩ := atLimit
  have lists : Lists store path name := lists_iff.mpr ⟨directory, member⟩
  exact ⟨name :: deep, congrArg Nat.succ length_eq, ⟨lists, leads⟩, canonical_eq⟩

/-- A walk enters all directories listed in one that it enters, unless it entered that one with
no level left. -/
theorem walk_closedAt_or_atLimit
    (wellFormed : store.WellFormed)
    (detecting : options.detectCycles = true)
    (levels : Nat)
    (path : String)
    (visited : List String) :
    ∀ canonical ∈ (walk store options levels path visited).2,
      canonical ∈ visited ∨
        ClosedAt store (walk store options levels path visited).2 canonical ∨
          AtLimit store levels path canonical := by
  induction levels using Nat.strongRecOn generalizing path visited with
  | ind levels inductionHypothesis =>
      rcases walk_cases detecting levels path visited with
        same | ⟨fewer, rfl, directory, _, walk_eq⟩
      · exact fun canonical member => .inl (same ▸ member)
      have grows (path : String) (visited : List String) :
          visited ⊆ (walk store options fewer path visited).2 :=
        walk_subset detecting fewer path visited
      rw [walk_eq]
      intro canonical member
      have later := walkEach_good (fun _ => True)
        (fun results canonical =>
          ClosedAt store results.2 canonical ∨ AtLimit store (fewer + 1) path canonical)
        grows (fun _ _ _ _ => trivial)
        (fun _ _ _ _ subset => .imp_left fun closed other child equal listed isDirectory =>
          subset (closed other child equal listed isDirectory))
        (fun child listed visited _ canonical member =>
          (inductionHypothesis fewer (Nat.lt_succ_self fewer) child visited canonical member).imp_right
            (.imp_right (.of_child directory listed)))
        _ trivial canonical member
      rcases later with entered | good
      · rcases List.mem_cons.mp entered with rfl | entered
        · -- Only the last level leaves none for the entries of the directory itself.
          cases fewer with
          | zero => exact .inr (.inr (atLimit_self directory))
          | succ fewer =>
              exact .inr (.inl (closedAt_walkEach wellFormed (fun _ => True) grows
                (fun _ _ _ _ => trivial)
                (fun isDirectory _ => entered_of_level detecting isDirectory fewer _) trivial))
        · exact .inl entered
      · exact .inr good

/-! ## Sources that are lost -/

/-- The directory around a file is entered, or the file is where the scan starts. -/
def Reached (store : Store) (root : String) (visited : List String) (file : String) : Prop :=
  file = root ∨ ∃ canonical ∈ visited, LiesIn store file canonical

/-- The depth limit keeps out a directory to which a name leads on from the end of a chain. -/
structure KeptOut
    (store : Store)
    (limit : Nat)
    (root : String)
    (visited front : List String)
    (name : String) :
    Prop where
  /-- The directory at the end of the chain is entered, and is also at the end of a chain that is
  as long as the limit. -/
  usedUp :
    ∃ deep canonical,
      deep.length = limit ∧ Leads store root deep ∧
        store.canonicalPath (Path.descend root deep) = .ok canonical ∧
          store.canonicalPath (Path.descend root front) = .ok canonical ∧ canonical ∈ visited
  /-- The directory with the name is not entered. -/
  missed :
    ∃ canonical,
      store.canonicalPath (Path.descend root (front ++ [name])) = .ok canonical ∧
        canonical ∉ visited

/-- A source at the end of a chain is found, up to the path of its directory, if the directory is
entered, and else the depth limit keeps a directory on the way to it out. -/
theorem entered_or_keptOut
    {root last : String}
    (wellFormed : store.WellFormed)
    (detecting : options.detectCycles = true)
    (leads : Leads store root (names ++ [last])) :
    let visited := (walk store options (options.maxDepth + 1) root []).2
    (store.resolve (Path.descend root names)).toPath ∈ visited ∨
      ∃ front name back,
        names = front ++ name :: back ∧
          KeptOut store options.maxDepth root visited front name := by
  intro visited
  obtain ⟨frontLeads, lists⟩ := leads.concat
  have directory := (lists_iff.mp lists).1
  have rootEntered : (store.resolve root).toPath ∈ visited :=
    entered_of_level detecting (frontLeads.directory directory) options.maxDepth []
  refine or_iff_not_imp_left.mpr fun missed => ?_
  obtain ⟨front, name, back, rfl, entered, isDirectory, nameMissed⟩ :=
    exists_unentered_of_leads frontLeads directory rootEntered missed
  obtain ⟨_, nameListed, _⟩ := frontLeads.of_append
  obtain ⟨frontDirectory, listed⟩ := lists_iff.mp nameListed
  refine ⟨front, name, back, rfl, ?_, _, canonicalPath_of_lookup isDirectory, nameMissed⟩
  rcases walk_closedAt_or_atLimit wellFormed detecting _ root [] _ entered with
    nowhere | closed | ⟨deep, length_eq, deepLeads, deep_eq⟩
  · cases nowhere
  · rw [Path.descend_concat] at isDirectory nameMissed
    exact absurd (closed _ _ rfl (List.mem_map_of_mem listed) isDirectory) nameMissed
  · exact ⟨deep, _, Nat.succ.inj length_eq, deepLeads, deep_eq,
      canonicalPath_of_lookup frontDirectory, entered⟩

/-- A source is found, up to the path of its directory, exactly if the directory is entered. -/
theorem exists_sameEntry_iff_entered
    {root last : String}
    (wellFormed : store.WellFormed)
    (detecting : options.detectCycles = true)
    (leads : Leads store root (names ++ [last]))
    (source : IsSource store options.sourceExtension (Path.descend root (names ++ [last]))) :
    let result := walk store options (options.maxDepth + 1) root []
    (∃ other ∈ result.1, SameEntry store (Path.descend root (names ++ [last])) other) ↔
      (store.resolve (Path.descend root names)).toPath ∈ result.2 := by
  intro result
  obtain ⟨frontLeads, lists⟩ := leads.concat
  obtain ⟨directory, listed⟩ := lists_iff.mp lists
  rw [Path.descend_concat] at source ⊢
  constructor
  · rintro ⟨other, found, same⟩
    rcases (walk_once wellFormed detecting _ root []).home found with
      rfl | ⟨canonical, entered, _, lies⟩
    · -- The scan starts at a directory, which is no source.
      have otherSource := isSource_iff_mem_sourceAt.mpr (mem_sourceAt_of_mem_walk found)
      exact absurd (frontLeads.directory directory) otherSource.lookup_ne_directory
    · rwa [same.canonical_eq (liesIn_join (wellFormed.name_proper listed) directory) lies]
  · intro entered
    have reported := (walk_reported detecting _ root [] _ entered).resolve_left List.not_mem_nil
    exact reported.exists_sameEntry wellFormed lists source

theorem reached_iff
    {root last : String}
    (wellFormed : store.WellFormed)
    (leads : Leads store root (names ++ [last]))
    (source : IsSource store extension (Path.descend root (names ++ [last]))) :
    Reached store root visited (Path.descend root (names ++ [last])) ↔
      (store.resolve (Path.descend root names)).toPath ∈ visited := by
  obtain ⟨frontLeads, lists⟩ := leads.concat
  obtain ⟨directory, listed⟩ := lists_iff.mp lists
  have lies : LiesIn store (Path.descend root (names ++ [last]))
      (store.resolve (Path.descend root names)).toPath := by
    rw [Path.descend_concat]
    exact liesIn_join (wellFormed.name_proper listed) directory
  constructor
  · rintro (isRoot | ⟨canonical, entered, liesToo⟩)
    · rw [isRoot] at source
      exact absurd (frontLeads.directory directory) source.lookup_ne_directory
    · rwa [(SameEntry.refl _).canonical_eq lies liesToo]
  · exact fun entered => .inr ⟨_, entered, lies⟩

/-- Detecting cycles makes no difference without links.  With links, a source that is found
without detection within any depth limit is found with detection, up to the path of its
directory, exactly if that directory is entered.  If it is not, the depth limit keeps out a
directory on the way to the source: the one that lists it is also at the end of a chain as long as
the limit, and so of a longer one than that to the source.  A limit that is not smaller than the
number of directories keeps none out. -/
theorem detection_loses_only_unentered
    (wellFormed : store.WellFormed)
    (detecting : options.detectCycles = true)
    (root : String) :
    ∃ found visited,
      (below store options (options.maxDepth + 1) root).run [] = .ok (found, visited) ∧
      scan store options root = .ok found ∧
      (store.Linkless →
        scan store { options with detectCycles := false } root = .ok found) ∧
      ∀ limit, ∃ plain,
        scan store { options with maxDepth := limit, detectCycles := false } root = .ok plain ∧
        ∀ file ∈ plain,
          ((∃ other ∈ found, SameEntry store file other) ↔ Reached store root visited file) ∧
          (Reached store root visited file ∨
            ∃ front name back,
              file = Path.descend root (front ++ name :: back) ∧
                Leads store root (front ++ name :: back) ∧
                (limit ≤ options.maxDepth → front.length < options.maxDepth) ∧
                KeptOut store options.maxDepth root visited front name) ∧
          (store.entries.countP (fun pair => pair.2.isDirectory) ≤ options.maxDepth →
            Reached store root visited file) := by
  refine ⟨(walk store options (options.maxDepth + 1) root []).1,
    (walk store options (options.maxDepth + 1) root []).2,
    below_run store options _ root [], scan_eq store options root, ?_, fun limit => ?_⟩
  · intro linkless
    rw [← scan_eq_of_linkless wellFormed linkless detecting, scan_eq]
  · refine ⟨_, scan_eq store _ root, fun file member => ?_⟩
    rw [walk_eq_chains rfl] at member
    obtain ⟨names, chain, rfl⟩ := List.mem_map.mp member
    obtain ⟨short, leads, source⟩ := mem_chains_iff.mp chain
    rcases names.eq_nil_or_concat' with rfl | ⟨front, last, rfl⟩
    · have atRoot {visited : List String} :
          Reached store root visited (Path.descend root []) := .inl rfl
      have notDirectory : store.lookup root ≠ some .directory := source.lookup_ne_directory
      refine ⟨iff_of_true ⟨root, ?_, .refl root⟩ atRoot, .inl atRoot, fun _ => atRoot⟩
      rw [walk_of_ne_directory notDirectory]
      exact isSource_iff_mem_sourceAt.mp source
    · rw [reached_iff wellFormed leads source]
      refine ⟨exists_sameEntry_iff_entered wellFormed detecting leads source, ?_, fun enough => ?_⟩
      · refine (entered_or_keptOut wellFormed detecting leads).imp_right ?_
        rintro ⟨front, name, back, rfl, keptOut⟩
        rw [List.append_assoc, List.cons_append] at short leads ⊢
        refine ⟨front, name, back ++ [last], rfl, leads, fun within => ?_, keptOut⟩
        simp only [List.length_append, List.length_cons, List.length_nil] at short
        omega
      · obtain ⟨frontLeads, lists⟩ := leads.concat
        have directory := (lists_iff.mp lists).1
        exact entered_of_leads (walk_closed_of_enough_levels wellFormed detecting enough root)
          frontLeads directory
          (entered_of_level detecting (frontLeads.directory directory) options.maxDepth [])

/-- A source beside a link to its own directory, and another one three levels below. -/
def loopedStore : Store :=
  ((Store.empty.withFile "root/a.src" "a").withLink "root/loop" "root").withFile
    "root/x/y/z/deep.src" "x"

theorem loopedStore_reachable : Store.Reachable loopedStore [] :=
  .withFile "root/x/y/z/deep.src" "x"
    (.withLink "root/loop" "root" (.withFile "root/a.src" "a" (.empty _)))

/-- The depth limit keeps the directory out that is two levels below, but no source is lost that
is found without detection within that limit. -/
theorem detection_loses_only_unentered_of_loopedStore :
    Store.Reachable loopedStore [] ∧
      scan loopedStore ⟨"src", 1, true⟩ "root" = .ok ["root/a.src"] ∧
      scan loopedStore ⟨"src", 1, false⟩ "root" = .ok ["root/a.src", "root/loop/a.src"] ∧
      ∀ file ∈ ["root/a.src", "root/loop/a.src"], SameEntry loopedStore file "root/a.src" := by
  have scanned : scan loopedStore ⟨"src", 1, true⟩ "root" = .ok ["root/a.src"] := by
    decide +kernel
  have plainScanned :
      scan loopedStore ⟨"src", 1, false⟩ "root" = .ok ["root/a.src", "root/loop/a.src"] := by
    decide +kernel
  refine ⟨loopedStore_reachable, scanned, plainScanned, fun file member => ?_⟩
  obtain ⟨found, visited, ran, found_eq, _, compared⟩ :=
    detection_loses_only_unentered loopedStore_reachable.wellFormed
      (rfl : (⟨"src", 1, true⟩ : ScanOptions).detectCycles = true) "root"
  obtain ⟨plain, plain_eq, agree⟩ := compared 1
  rw [scanned] at found_eq
  rw [plainScanned] at plain_eq
  cases Except.ok.inj found_eq
  cases Except.ok.inj plain_eq
  have entered : (below loopedStore ⟨"src", 1, true⟩ 2 "root").run [] =
      .ok (["root/a.src"], ["root/x", "root"]) := by
    decide +kernel
  rw [ran] at entered
  cases Except.ok.inj entered
  have lies : LiesIn loopedStore file "root" := by
    rcases List.mem_pair.mp member with rfl | rfl
    · decide +kernel
    · decide +kernel
  obtain ⟨other, found, same⟩ :=
    (agree file member).1.mpr (.inr ⟨"root", by decide, lies⟩)
  exact List.mem_singleton.mp found ▸ same

/-- A source two levels below the directory `d`, to which a link leads from one level
deeper. -/
def linkedStore : Store :=
  ((Store.empty.withDirectory "root/a").withLink "root/a/l" "root/d").withFile
    "root/d/s/f.src" "x"

theorem linkedStore_reachable : Store.Reachable linkedStore [] :=
  .withFile "root/d/s/f.src" "x"
    (.withLink "root/a/l" "root/d" (.withDirectory "root/a" (.empty _)))

/-- The link uses up the level that the source needs, and the directory is not entered again on
the shorter path. -/
theorem detection_loses_source :
    Store.Reachable linkedStore [] ∧
      scan linkedStore ⟨"src", 2, false⟩ "root" = .ok ["root/d/s/f.src"] ∧
      scan linkedStore ⟨"src", 2, true⟩ "root" = .ok [] := by
  exact ⟨linkedStore_reachable, by decide +kernel, by decide +kernel⟩

end Scan
end Baseline
