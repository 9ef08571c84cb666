import Baseline.Proofs.Scan.Chains

/-!
# Stores that are trees

In a housed store every entry lies in the root or in a directory, so all locations above
an entry hold directories (`Housed.entryAt_above`), and the listings of directories lead
from the root to every file (`Housed.leads_to_file`).  Putting an entry keeps a store
housed exactly if it is put into a directory and no other entry is left in what is no
directory (`Housed.put_iff`); the directories missing around an entry can be added exactly
if no file and no link stands in their way (`Clear`).
-/

namespace Baseline
namespace Store

variable
  {store : Store}
  {location other above : Location}
  {entry : Entry}
  {path content name : String}

/-- Every entry lies in the root or in a directory. -/
def Housed (store : Store) : Prop :=
  ∀ pair ∈ store.entries, store.entryAt pair.1.parent = some .directory

instance (store : Store) : Decidable store.Housed :=
  inferInstanceAs (Decidable (∀ pair ∈ store.entries, _))

/-- Neither a file nor a link is at the location or above it. -/
def Clear (store : Store) (location : Location) : Prop :=
  ∀ above, above <+: location → store.entryAt above = none ∨ store.entryAt above = some .directory

/-- No entry lies in the location; the root is a directory in any case, so there it does not
matter. -/
def Vacant (store : Store) (location : Location) : Prop :=
  location = [] ∨ store.namesIn location = []

/-! ## Entries at resolved locations -/

theorem entryAt_of_ne_nil (below : location ≠ []) :
    store.entryAt location = store.find? location := by
  cases location with
  | nil => exact absurd rfl below
  | cons name rest => rfl

theorem find?_of_entryAt
    (below : location ≠ [])
    (held : store.entryAt location = some entry) :
    store.find? location = some entry :=
  (entryAt_of_ne_nil below).symm.trans held

theorem entryAt_eq_of_find?_eq
    {after : Store}
    (same : after.find? location = store.find? location) :
    after.entryAt location = store.entryAt location := by
  cases location with
  | nil => rfl
  | cons name rest => exact same

theorem entryAt_put_of_ne (different : other ≠ location) :
    (store.put location entry).entryAt other = store.entryAt other :=
  entryAt_eq_of_find?_eq (find?_put_of_ne different)

theorem isSome_entryAt_put (there : (store.entryAt other).isSome) :
    ((store.put location entry).entryAt other).isSome := by
  by_cases same : other = location
  · cases location with
    | nil => rw [same]; rfl
    | cons name rest =>
        rw [same, entryAt_of_ne_nil (List.cons_ne_nil _ _), find?_put_self]
        rfl
  · rwa [entryAt_put_of_ne same]

theorem exists_find?_of_mem (member : (location, entry) ∈ store.entries) :
    ∃ held, store.find? location = some held := by
  rw [← Option.ne_none_iff_exists', find?]
  intro absent
  have different := List.lookup_eq_none_iff.mp absent _ member
  exact bne_iff_ne.mp different rfl

theorem parent_ne_self (below : location ≠ []) : location.parent ≠ location := by
  intro same
  have lengths := congrArg List.length same
  have := List.length_pos_iff.mpr below
  rw [Location.parent, List.length_dropLast] at lengths
  omega

theorem namesIn_eq_nil_iff (below : location ≠ []) :
    store.namesIn location = [] ↔ ∀ pair ∈ store.entries, pair.1.parent ≠ location := by
  constructor
  · rintro empty ⟨other, entry⟩ member inside
    have otherBelow : other ≠ [] := by
      rintro rfl
      exact below inside.symm
    have listed := mem_namesIn.mpr
      ⟨other, entry, member, inside, List.getLast?_eq_some_getLast otherBelow⟩
    rw [empty] at listed
    cases listed
  · intro nothing
    rw [List.eq_nil_iff_forall_not_mem]
    intro name listed
    obtain ⟨other, entry, member, inside, _⟩ := mem_namesIn.mp listed
    exact nothing _ member inside

/-! ## Above an entry -/

/-- All locations above an entry hold directories. -/
theorem Housed.entryAt_above
    (housed : store.Housed)
    (found : store.find? location = some entry)
    (isAbove : above <+: location)
    (different : above ≠ location) :
    store.entryAt above = some .directory := by
  induction location using List.reverseRecOn generalizing entry with
  | nil => exact absurd (List.prefix_nil.mp isAbove) different
  | append_singleton front name inductionHypothesis =>
      have around := housed _ (mem_of_find?_eq_some found)
      rw [Location.parent, List.dropLast_concat] at around
      have aboveFront := (List.prefix_concat_iff.mp isAbove).resolve_left different
      by_cases same : above = front
      · rwa [same]
      · have frontBelow : front ≠ [] := by
          rintro rfl
          exact same (List.prefix_nil.mp aboveFront)
        exact inductionHypothesis (find?_of_entryAt frontBelow around) aboveFront same

theorem Housed.clear
    (housed : store.Housed)
    (held : store.entryAt location = some .directory) :
    store.Clear location := by
  intro above isAbove
  by_cases same : above = location
  · rw [same]
    exact .inr held
  · have below : location ≠ [] := by
      rintro rfl
      exact same (List.prefix_nil.mp isAbove)
    exact .inr (housed.entryAt_above (find?_of_entryAt below held) isAbove same)

/-- Nothing lies in what is no directory. -/
theorem Housed.namesIn_eq_nil
    (housed : store.Housed)
    (below : location ≠ [])
    (noDirectory : store.find? location ≠ some .directory) :
    store.namesIn location = [] := by
  rw [namesIn_eq_nil_iff below]
  rintro pair member rfl
  exact noDirectory (find?_of_entryAt below (housed pair member))

/-! ## Listed from the root -/

/-- The names of an entry lead to it through directories, without any link. -/
theorem Housed.resolveLocation_eq
    (housed : store.Housed)
    (held : store.entryAt location = some entry)
    (noLink : ∀ target, entry ≠ .link target) :
    store.resolveLocation location = location := by
  induction location using List.reverseRecOn generalizing entry with
  | nil => rfl
  | append_singleton front name inductionHypothesis =>
      have found : store.find? (front ++ [name]) = some entry :=
        find?_of_entryAt (List.concat_ne_nil name front) held
      have around := housed _ (mem_of_find?_eq_some found)
      rw [Location.parent, List.dropLast_concat] at around
      have frontLeads := inductionHypothesis around (by simp)
      have unfollowed (target : Location) :
          store.find? (front ++ [name]) ≠ some (.link target) := by
        rw [found]
        exact fun linked => noLink target (Option.some.inj linked)
      rw [resolveLocation_append, frontLeads]
      exact follow_of_ne_link unfollowed linkLimit

/-- The names of an entry are listed in the directories that the names before lead to. -/
theorem Housed.leads
    (housed : store.Housed)
    (wellFormed : store.WellFormed)
    (held : store.entryAt location = some entry) :
    Scan.Leads store "" location := by
  induction location using List.reverseRecOn generalizing entry with
  | nil => trivial
  | append_singleton front name inductionHypothesis =>
      have member := mem_of_find?_eq_some
        (find?_of_entryAt (List.concat_ne_nil name front) held)
      have around := housed _ member
      rw [Location.parent, List.dropLast_concat] at around
      have frontProper : Location.Proper front := fun other there =>
        wellFormed.proper member other (List.mem_append_left _ there)
      have resolved : store.resolve (Path.descend "" front) = front := by
        rw [resolve, Path.ofPath_descend frontProper]
        exact housed.resolveLocation_eq around (by simp)
      refine (inductionHypothesis around).snoc (Scan.lists_iff.mpr ⟨?_, ?_⟩)
      · rw [lookup_eq_entryAt, resolved, around]
      · rw [resolved]
        exact mem_namesIn.mpr ⟨_, entry, member, List.dropLast_concat, List.getLast?_concat⟩

/-- The listings of directories lead from the root to every file. -/
theorem Housed.leads_to_file
    (housed : store.Housed)
    (wellFormed : store.WellFormed)
    (file : store.isFile path = .ok true) :
    Scan.Leads store "" (store.resolve path) ∧
      store.resolve (Path.descend "" (store.resolve path)) = store.resolve path := by
  obtain ⟨content, held⟩ := Scan.isFile_eq_ok_true_iff.mp file
  rw [lookup_eq_entryAt] at held
  refine ⟨housed.leads wellFormed held, ?_⟩
  rw [resolve, Path.ofPath_descend (wellFormed.resolve_proper path)]
  exact housed.resolveLocation_eq held (by simp)

/-! ## Putting an entry -/

/-- Putting an entry keeps a store housed exactly if it is put into a directory, and no entry
lies where a file or a link comes. -/
theorem Housed.put_iff (housed : store.Housed) :
    (store.put location entry).Housed ↔
      store.entryAt location.parent = some .directory ∧
        (entry = .directory ∨ store.Vacant location) := by
  by_cases root : location = []
  · subst root
    refine iff_of_true (fun pair member => ?_) ⟨rfl, .inr (.inl rfl)⟩
    rcases mem_putEntry member with rfl | member
    · rfl
    · cases around : pair.1.parent with
      | nil => rfl
      | cons name rest =>
          rw [entryAt_put_of_ne (List.cons_ne_nil name rest), ← around]
          exact housed pair member
  have aroundPut : (store.put location entry).entryAt location.parent =
      store.entryAt location.parent :=
    entryAt_put_of_ne (parent_ne_self root)
  have here : (store.put location entry).entryAt location = some entry :=
    (entryAt_of_ne_nil root).trans (find?_put_self store location entry)
  constructor
  · intro after
    refine ⟨aroundPut ▸ after _ (mem_of_find?_eq_some (find?_put_self store location entry)), ?_⟩
    by_cases empty : store.namesIn location = []
    · exact .inr (.inr empty)
    -- An entry in the location stays there, so a directory must have been put.
    obtain ⟨name, listed⟩ := List.exists_mem_of_ne_nil _ empty
    obtain ⟨child, kept, member, rfl, _⟩ := mem_namesIn.mp listed
    have childBelow : child ≠ [] := by
      rintro rfl
      exact root rfl
    obtain ⟨held, found⟩ := exists_find?_of_mem member
    rw [← find?_put_of_ne (parent_ne_self childBelow).symm] at found
    have inside := after _ (mem_of_find?_eq_some found)
    rw [here] at inside
    exact .inl (Option.some.inj inside)
  · rintro ⟨around, fits⟩ pair member
    rcases mem_putEntry member with rfl | member
    · rw [aroundPut, around]
    · by_cases inside : pair.1.parent = location
      · rw [inside, here]
        rcases fits with rfl | rfl | empty
        · rfl
        · exact absurd rfl root
        · exact absurd inside ((namesIn_eq_nil_iff root).mp empty pair member)
      · rw [entryAt_put_of_ne inside, housed pair member]

/-- Removing a file keeps a store housed. -/
theorem Housed.removed
    {after : Store}
    (housed : store.Housed)
    (removed : store.removeFile path = .ok after) :
    after.Housed := by
  obtain ⟨content, held, rfl⟩ := removeFile_eq_ok_iff.mp removed
  rw [read_eq_some_iff] at held
  intro pair member
  have around := housed pair (List.mem_of_mem_eraseP member)
  by_cases root : pair.1.parent = []
  · rw [root]
    rfl
  · rw [entryAt_of_ne_nil root] at around ⊢
    rw [find?_erase_of_ne, around]
    rintro inside
    rw [inside, held] at around
    cases around

/-! ## Adding directories -/

theorem insertDirectory_of_entryAt (held : store.entryAt location = some entry) :
    store.insertDirectory location = store := by
  rw [insertDirectory]
  by_cases root : location = []
  · rw [if_pos (.inl root)]
  · rw [if_pos]
    exact .inr (Option.isSome_iff_exists.mpr ⟨entry, find?_of_entryAt root held⟩)

/-- Adding directories leaves the entries that are there alone. -/
theorem find?_insertDirectory_of_some (found : store.find? other = some entry) :
    (store.insertDirectory location).find? other = some entry := by
  fun_induction Store.insertDirectory store location with
  | case1 => exact found
  | case2 location condition inductionHypothesis =>
      have different : other ≠ location := by
        rintro rfl
        rw [found] at condition
        exact condition (.inr rfl)
      rw [find?_put_of_ne different, inductionHypothesis]

/-- Directories are added at and above the location only. -/
theorem find?_insertDirectory_of_not_above (notAbove : ¬other <+: location) :
    (store.insertDirectory location).find? other = store.find? other := by
  fun_induction Store.insertDirectory store location with
  | case1 => rfl
  | case2 location condition inductionHypothesis =>
      have different : other ≠ location := by
        rintro rfl
        exact notAbove List.prefix_rfl
      rw [find?_put_of_ne different, inductionHypothesis]
      exact fun isAbove => notAbove (isAbove.trans (List.dropLast_prefix location))

theorem find?_insertDirectory_self
    (below : location ≠ [])
    (absent : store.find? location = none) :
    (store.insertDirectory location).find? location = some .directory := by
  rw [insertDirectory, if_neg, find?_put_self]
  rw [absent]
  exact fun condition => condition.elim below Bool.false_ne_true

/-- Where nothing stands in the way, directories can be added down to the location. -/
theorem Housed.insertDirectory
    (housed : store.Housed)
    (clear : store.Clear location) :
    (store.insertDirectory location).Housed ∧
      (store.insertDirectory location).entryAt location = some .directory := by
  fun_induction Store.insertDirectory store location with
  | case1 location condition =>
      refine ⟨housed, (clear location List.prefix_rfl).resolve_left ?_⟩
      by_cases root : location = []
      · rw [root]
        exact Option.some_ne_none _
      · rw [entryAt_of_ne_nil root]
        exact Option.isSome_iff_ne_none.mp (condition.resolve_left root)
  | case2 location condition inductionHypothesis =>
      obtain ⟨parentHoused, around⟩ := inductionHypothesis fun above isAbove =>
        clear above (isAbove.trans (List.dropLast_prefix location))
      refine ⟨parentHoused.put_iff.mpr ⟨around, .inl rfl⟩, ?_⟩
      rw [entryAt_of_ne_nil fun root => condition (.inl root), find?_put_self]

/-- A file or a link in the way is left with a directory in it. -/
theorem clear_of_insertDirectory
    (absent : store.find? location = none)
    (after : (store.insertDirectory location).Housed) :
    store.Clear location := by
  intro above isAbove
  by_cases root : above = []
  · rw [root]
    exact .inr rfl
  rw [entryAt_of_ne_nil root]
  cases found : store.find? above with
  | none => exact .inl rfl
  | some entry =>
      have different : above ≠ location := by
        rintro rfl
        rw [absent] at found
        cases found
      have below : location ≠ [] := by
        rintro rfl
        exact root (List.prefix_nil.mp isAbove)
      have held := after.entryAt_above (find?_insertDirectory_self below absent) isAbove different
      rw [entryAt_of_ne_nil root, find?_insertDirectory_of_some found] at held
      exact .inr held

/-- Adding a directory keeps a store housed exactly if something is there already or nothing
stands in the way. -/
theorem Housed.withDirectory_iff (housed : store.Housed) :
    (store.withDirectory path).Housed ↔
      (store.find? (.ofPath path)).isSome ∨ store.Clear (.ofPath path) := by
  rw [withDirectory]
  cases found : store.find? (.ofPath path) with
  | some entry =>
      refine iff_of_true ?_ (.inl rfl)
      rw [Store.insertDirectory, if_pos (.inr (by rw [found]; rfl))]
      exact housed
  | none =>
      constructor
      · exact fun after => .inr (clear_of_insertDirectory found after)
      · rintro (there | clear)
        · cases there
        · exact (housed.insertDirectory clear).1

/-- Adding a file or a link leaves the other entries alone. -/
theorem find?_withEntry_of_some
    {kept : Entry}
    (found : store.find? other = some kept)
    (different : other ≠ .ofPath path) :
    (store.withEntry path entry).find? other = some kept := by
  rw [withEntry, find?_put_of_ne different, find?_insertDirectory_of_some found]

/-- Directories are not added where an entry is to come in one of them. -/
theorem find?_insertDirectory_parent (below : location ≠ []) :
    (store.insertDirectory location.parent).find? location = store.find? location := by
  apply find?_insertDirectory_of_not_above
  intro isAbove
  have lengths := isAbove.length_le
  have := List.length_pos_iff.mpr below
  rw [Location.parent, List.length_dropLast] at lengths
  omega

/-- If nothing stands in the way of the directories around it and no entry lies where it comes,
an entry can be added. -/
theorem Housed.withEntry
    (housed : store.Housed)
    (clear : store.Clear (Location.ofPath path).parent)
    (vacant : store.Vacant (.ofPath path)) :
    (store.withEntry path entry).Housed := by
  obtain ⟨parentHoused, around⟩ := housed.insertDirectory clear
  refine parentHoused.put_iff.mpr ⟨around, .inr (or_iff_not_imp_left.mpr fun below => ?_)⟩
  by_cases directory : store.find? (.ofPath path) = some .directory
  · have there := housed _ (mem_of_find?_eq_some directory)
    rw [insertDirectory_of_entryAt there]
    exact vacant.resolve_left below
  · apply parentHoused.namesIn_eq_nil below
    rwa [find?_insertDirectory_parent below]

/-- Adding a file or a link keeps a store housed exactly if nothing stands in the way of the
directories around it, and no entry lies where it comes. -/
theorem Housed.withEntry_iff
    (housed : store.Housed)
    (noDirectory : entry ≠ .directory) :
    (store.withEntry path entry).Housed ↔
      store.Clear (Location.ofPath path).parent ∧
        store.Vacant (.ofPath path) := by
  refine ⟨fun after => ?_, fun ⟨clear, vacant⟩ => housed.withEntry clear vacant⟩
  by_cases root : Location.ofPath path = []
  · rw [root]
    exact ⟨housed.clear rfl, .inl rfl⟩
  have here : (store.withEntry path entry).find? (.ofPath path) = some entry :=
    find?_put_self _ _ _
  constructor
  · -- What was above the entry is still there, and it lies above an entry now.
    intro above isAbove
    by_cases aboveRoot : above = []
    · rw [aboveRoot]
      exact .inr rfl
    rw [entryAt_of_ne_nil aboveRoot]
    cases found : store.find? above with
    | none => exact .inl rfl
    | some kept =>
        have different : above ≠ Location.ofPath path := by
          rintro rfl
          exact parent_ne_self root
            ((List.dropLast_prefix _).eq_of_length_le isAbove.length_le)
        have held := after.entryAt_above here (isAbove.trans (List.dropLast_prefix _)) different
        rw [entryAt_of_ne_nil aboveRoot, find?_withEntry_of_some found different] at held
        exact .inr held
  · -- What lay in the place of the entry would lie in no directory.
    refine .inr ((namesIn_eq_nil_iff root).mpr fun pair member inside => ?_)
    obtain ⟨kept, found⟩ := exists_find?_of_mem member
    have different : pair.1 ≠ Location.ofPath path := by
      intro same
      rw [same] at inside
      exact parent_ne_self root inside
    have around := after _ (mem_of_find?_eq_some (find?_withEntry_of_some found different))
    rw [inside, entryAt_of_ne_nil root, here] at around
    exact noDirectory (Option.some.inj around)

end Store
end Baseline
