import Baseline.Proofs.Scan.Walk

/-!
# Scans of stores without links

Without links the entries below a path lie below its location, so a walk meets no
directory twice and detecting cycles makes no difference (`scan_eq_of_linkless`).
-/

namespace Baseline
namespace Scan

variable
  {store : Store}
  {options : ScanOptions}
  {levels : Nat}
  {path : String}
  {visited : List String}

/-- The canonical path of something at or below a location. -/
def Below (location : Location) (canonical : String) : Prop :=
  ∃ rest : Location, (location ++ rest).Proper ∧ canonical = (location ++ rest).toPath

theorem Below.of_append
    {front back : Location}
    {canonical : String}
    (below : Below (front ++ back) canonical) :
    Below front canonical := by
  obtain ⟨rest, proper, canonical_eq⟩ := below
  rw [List.append_assoc] at proper canonical_eq
  exact ⟨back ++ rest, proper, canonical_eq⟩

theorem Below.name_eq
    {location : Location}
    {left right canonical : String}
    (leftBelow : Below (location ++ [left]) canonical)
    (rightBelow : Below (location ++ [right]) canonical) :
    left = right := by
  obtain ⟨leftRest, leftProper, leftPath⟩ := leftBelow
  obtain ⟨rightRest, rightProper, rightPath⟩ := rightBelow
  have same := Location.toPath_inj leftProper rightProper (leftPath.symm.trans rightPath)
  rw [List.append_assoc, List.append_assoc] at same
  exact (List.cons.inj (List.append_cancel_left same)).1

theorem not_below_self
    {location : Location}
    (proper : location.Proper)
    (name : String) :
    ¬Below (location ++ [name]) location.toPath := by
  rintro ⟨rest, restProper, equal⟩
  have same := congrArg List.length (Location.toPath_inj proper restProper equal)
  rw [List.append_assoc, List.length_append, List.singleton_append, List.length_cons] at same
  omega

/-- Two ways of walking find the same at a path, and the first enters only
directories at or below it. -/
def Alike
    (first second : String → List String → List String × List String)
    (path : String) :
    Prop :=
  ∀ visited entered,
    (∀ canonical ∈ visited, ¬Below (.ofPath path) canonical) →
    (first path visited).1 = (second path entered).1 ∧
      ∀ canonical ∈ (first path visited).2, canonical ∈ visited ∨ Below (.ofPath path) canonical

/-- Walks that are alike at the entries of a directory find the same there. -/
theorem walkEach_alike
    {first second : String → List String → List String × List String}
    {names : List String}
    (alike : ∀ name ∈ names, Alike first second (Path.join path "/" name))
    (proper : ∀ name ∈ names, Location.IsProper name)
    (distinct : names.Nodup)
    (visited entered : List String)
    (fresh : ∀ canonical ∈ visited, ∀ name ∈ names,
      ¬Below (.ofPath path ++ [name]) canonical) :
    (walkEach first (names.map (Path.join path "/")) visited).1 =
        (walkEach second (names.map (Path.join path "/")) entered).1 ∧
      ∀ canonical ∈ (walkEach first (names.map (Path.join path "/")) visited).2,
        canonical ∈ visited ∨ Below (.ofPath path) canonical := by
  induction names generalizing visited entered with
  | nil => exact ⟨rfl, fun canonical member => .inl member⟩
  | cons name rest inductionHypothesis =>
      obtain ⟨nameProper, restProper⟩ := List.forall_mem_cons.mp proper
      obtain ⟨nameAlike, restAlike⟩ := List.forall_mem_cons.mp alike
      obtain ⟨notLater, restDistinct⟩ := List.nodup_cons.mp distinct
      have location_eq := Path.ofPath_join path nameProper
      obtain ⟨sameNow, enteredNow⟩ := nameAlike visited entered (by
        rw [location_eq]
        exact fun canonical member => fresh canonical member name List.mem_cons_self)
      rw [location_eq] at enteredNow
      obtain ⟨sameLater, enteredLater⟩ := inductionHypothesis restAlike restProper restDistinct
        (first (Path.join path "/" name) visited).2 (second (Path.join path "/" name) entered).2 (by
          intro canonical member other otherMember below
          rcases enteredNow canonical member with earlier | now
          · exact fresh canonical earlier other (List.mem_cons_of_mem _ otherMember) below
          · exact notLater (now.name_eq below ▸ otherMember))
      rw [List.map_cons, walkEach, walkEach]
      refine ⟨congrArg₂ (· ++ ·) sameNow sameLater, fun canonical member => ?_⟩
      rcases enteredLater canonical member with earlier | below
      · exact (enteredNow canonical earlier).imp_right Below.of_append
      · exact .inr below

/-- Without links, walks with and without detection find the same. -/
theorem walk_alike
    {plain : ScanOptions}
    (wellFormed : store.WellFormed)
    (linkless : store.Linkless)
    (detecting : options.detectCycles = true)
    (careless : plain.detectCycles = false)
    (sameExtension : plain.sourceExtension = options.sourceExtension)
    (levels : Nat)
    (path : String) :
    Alike (walk store options levels) (walk store plain levels) path := by
  have source_eq (path : String) : sourceAt store options path = sourceAt store plain path := by
    rw [sourceAt, sourceAt, sameExtension]
  induction levels generalizing path with
  | zero =>
      intro visited entered _
      by_cases directory : store.lookup path = some .directory
      · rw [walk_of_cut directory, walk_of_cut directory]
        exact ⟨rfl, fun canonical member => .inl member⟩
      · rw [walk_of_ne_directory directory, walk_of_ne_directory directory]
        exact ⟨source_eq path, fun canonical member => .inl member⟩
  | succ levels inductionHypothesis =>
      intro visited entered fresh
      by_cases directory : store.lookup path = some .directory
      · have proper := Location.ofPath_proper path
        have self : Below (.ofPath path) (store.resolve path).toPath := by
          refine ⟨[], ?_, ?_⟩
          · rwa [List.append_nil]
          · rw [List.append_nil, linkless.resolve_eq]
        have new : (store.resolve path).toPath ∉ visited := fun member => fresh _ member self
        rw [walk_of_entered directory detecting new, walk_of_undetecting directory careless]
        obtain ⟨same, enters⟩ := walkEach_alike
          (fun name _ => inductionHypothesis (Path.join path "/" name))
          (fun _ => wellFormed.name_proper) (wellFormed.nodup_namesIn (store.resolve path))
          ((store.resolve path).toPath :: visited) entered (by
            intro canonical member name _ below
            rcases List.mem_cons.mp member with rfl | earlier
            · rw [linkless.resolve_eq] at below
              exact not_below_self proper name below
            · exact fresh canonical earlier below.of_append)
        refine ⟨same, fun canonical member => ?_⟩
        rcases enters canonical member with now | below
        · rcases List.mem_cons.mp now with rfl | earlier
          · exact .inr self
          · exact .inl earlier
        · exact .inr below
      · rw [walk_of_ne_directory directory, walk_of_ne_directory directory]
        exact ⟨source_eq path, fun canonical member => .inl member⟩

/-- Without links, detecting cycles makes no difference. -/
theorem scan_eq_of_linkless
    (wellFormed : store.WellFormed)
    (linkless : store.Linkless)
    (detecting : options.detectCycles = true)
    (path : String) :
    scan store options path = scan store { options with detectCycles := false } path := by
  have alike := walk_alike wellFormed linkless detecting
    (rfl : ({ options with detectCycles := false } : ScanOptions).detectCycles = false) (by rfl)
    (options.maxDepth + 1) path [] [] (List.forall_mem_nil _)
  rw [scan_eq, scan_eq, alike.1]

end Scan
end Baseline
