import Baseline.Store.Access

/-!
# The table of a store

What adding, replacing and erasing an entry does to the entries found at all
locations.  In a store without links every path leads where its names say, and
no operation of a run adds a link.
-/

namespace Baseline
namespace Store

variable {store : Store} {location other : Location} {entry : Entry}

/-! ## Entries after a change -/

theorem lookup_cons_eq
    (first other : Location)
    (kept : Entry)
    (rest : List (Location × Entry)) :
    ((first, kept) :: rest).lookup other =
      if other = first then some kept else rest.lookup other := by
  rw [List.lookup_cons]
  by_cases same : other = first
  · rw [if_pos same, beq_iff_eq.mpr same]
  · rw [if_neg same, beq_eq_false_iff_ne.mpr same]

theorem lookup_putEntry
    (location other : Location)
    (entry : Entry)
    (entries : List (Location × Entry)) :
    (putEntry location entry entries).lookup other =
      if other = location then some entry else entries.lookup other := by
  induction entries with
  | nil => rw [putEntry, lookup_cons_eq]
  | cons head rest inductionHypothesis =>
      obtain ⟨first, kept⟩ := head
      unfold putEntry
      by_cases same : first = location
      · subst same
        rw [if_pos rfl, lookup_cons_eq, lookup_cons_eq]
        split <;> rfl
      · rw [if_neg same, lookup_cons_eq, lookup_cons_eq, inductionHypothesis]
        by_cases found : other = first
        · subst found
          rw [if_pos rfl, if_neg same, if_pos rfl]
        · rw [if_neg found, if_neg found]

theorem find?_put (store : Store) (location other : Location) (entry : Entry) :
    (store.put location entry).find? other =
      if other = location then some entry else store.find? other :=
  lookup_putEntry location other entry store.entries

@[simp] theorem find?_put_self (store : Store) (location : Location) (entry : Entry) :
    (store.put location entry).find? location = some entry := by
  rw [find?_put, if_pos rfl]

theorem find?_put_of_ne (different : other ≠ location) :
    (store.put location entry).find? other = store.find? other := by
  rw [find?_put, if_neg different]

theorem lookup_eraseP_of_ne
    (different : other ≠ location)
    (entries : List (Location × Entry)) :
    (entries.eraseP fun entry => entry.1 == location).lookup other = entries.lookup other := by
  induction entries with
  | nil => rfl
  | cons head rest inductionHypothesis =>
      obtain ⟨first, kept⟩ := head
      by_cases same : first = location
      · subst same
        rw [List.eraseP_cons_of_pos (by simp), lookup_cons_eq, if_neg different]
      · rw [List.eraseP_cons_of_neg (by simp [same]), lookup_cons_eq, lookup_cons_eq,
          inductionHypothesis]

theorem find?_erase_of_ne (different : other ≠ location) :
    (store.erase location).find? other = store.find? other :=
  lookup_eraseP_of_ne different store.entries

theorem putEntry_putEntry
    (location : Location)
    (earlier later : Entry)
    (entries : List (Location × Entry)) :
    putEntry location later (putEntry location earlier entries) =
      putEntry location later entries := by
  induction entries with
  | nil => simp [putEntry]
  | cons head rest inductionHypothesis =>
      obtain ⟨first, kept⟩ := head
      by_cases same : first = location
      · simp [putEntry, same]
      · simp [putEntry, same, inductionHypothesis]

/-- Of two entries put at one location the later one stays. -/
@[simp] theorem put_put (store : Store) (location : Location) (earlier later : Entry) :
    (store.put location earlier).put location later = store.put location later := by
  rw [put, put, put, putEntry_putEntry]

theorem mem_of_find?_eq_some (found : store.find? location = some entry) :
    (location, entry) ∈ store.entries := by
  obtain ⟨before, after, entries_eq, _⟩ := List.lookup_eq_some_iff.mp found
  rw [entries_eq]
  exact List.mem_append_right _ List.mem_cons_self

theorem find?_eq_none (absent : location ∉ store.entries.map Prod.fst) :
    store.find? location = none := by
  rw [find?, List.lookup_eq_none_iff]
  intro pair member
  rw [bne_iff_ne]
  rintro rfl
  exact absent (List.mem_map_of_mem member)

theorem mem_putEntry
    {entries : List (Location × Entry)}
    {found : Location × Entry}
    (member : found ∈ putEntry location entry entries) :
    found = (location, entry) ∨ found ∈ entries := by
  induction entries with
  | nil => exact .inl (List.mem_singleton.mp member)
  | cons head rest inductionHypothesis =>
      obtain ⟨first, kept⟩ := head
      unfold putEntry at member
      split at member
      · rcases List.mem_cons.mp member with rfl | member
        · exact .inl rfl
        · exact .inr (List.mem_cons_of_mem _ member)
      · rcases List.mem_cons.mp member with rfl | member
        · exact .inr List.mem_cons_self
        · exact (inductionHypothesis member).imp_right (List.mem_cons_of_mem _)

/-! ## Entries elsewhere -/

theorem filter_eraseP
    {α : Type}
    {chosen keep : α → Bool}
    {entries : List α}
    (hidden : ∀ entry ∈ entries, chosen entry → keep entry = false) :
    (entries.eraseP chosen).filter keep = entries.filter keep := by
  induction entries with
  | nil => rfl
  | cons entry rest inductionHypothesis =>
      obtain ⟨hiddenNow, hiddenLater⟩ := List.forall_mem_cons.mp hidden
      by_cases found : chosen entry = true
      · rw [List.eraseP_cons_of_pos found, List.filter_cons_of_neg (by simp [hiddenNow found])]
      · rw [List.eraseP_cons_of_neg found, List.filter_cons, List.filter_cons,
          inductionHypothesis hiddenLater]

theorem filter_putEntry
    {keep : Location × Entry → Bool}
    {entries : List (Location × Entry)}
    (hidden : ∀ kept, (location, kept) ∈ entries → keep (location, kept) = false)
    (hiddenNew : keep (location, entry) = false) :
    (putEntry location entry entries).filter keep = entries.filter keep := by
  induction entries with
  | nil => rw [putEntry, List.filter_cons_of_neg (by simp [hiddenNew])]
  | cons head rest inductionHypothesis =>
      obtain ⟨first, kept⟩ := head
      unfold putEntry
      by_cases same : first = location
      · subst same
        rw [if_pos rfl, List.filter_cons_of_neg (by simp [hiddenNew]),
          List.filter_cons_of_neg (by simp [hidden kept List.mem_cons_self])]
      · rw [if_neg same, List.filter_cons, List.filter_cons,
          inductionHypothesis fun kept member => hidden kept (List.mem_cons_of_mem _ member)]

/-- The entries at other locations than those given, oldest first. -/
def outside (store : Store) (locations : List Location) : List (Location × Entry) :=
  store.entries.filter fun pair => pair.1 ∉ locations

variable {locations : List Location} {after : Store}

theorem outside_put (member : location ∈ locations) :
    (store.put location entry).outside locations = store.outside locations :=
  filter_putEntry (fun _ _ => by simpa using member) (by simpa using member)

theorem outside_erase (member : location ∈ locations) :
    (store.erase location).outside locations = store.outside locations := by
  apply filter_eraseP
  intro pair _ chosen
  rw [beq_iff_eq] at chosen
  simpa [chosen] using member

theorem outside_put_of_not_mem (notMember : location ∉ locations) :
    (store.put location entry).outside locations =
      putEntry location entry (store.outside locations) := by
  unfold put outside
  dsimp only
  induction store.entries with
  | nil => rw [putEntry, List.filter_cons_of_pos (by simpa using notMember)]; rfl
  | cons head rest inductionHypothesis =>
      obtain ⟨first, kept⟩ := head
      by_cases same : first = location
      · subst same
        rw [putEntry, if_pos rfl, List.filter_cons_of_pos (by simpa using notMember),
          List.filter_cons_of_pos (by simpa using notMember), putEntry, if_pos rfl]
      · rw [putEntry, if_neg same, List.filter_cons, List.filter_cons, inductionHypothesis]
        split
        · rw [putEntry, if_neg same]
        · rfl

theorem outside_erase_of_not_mem (notMember : location ∉ locations) :
    (store.erase location).outside locations =
      (store.outside locations).eraseP fun pair => pair.1 == location := by
  have chosen : (fun pair : Location × Entry =>
      pair.1 == location && decide (pair.1 ∉ locations)) = fun pair => pair.1 == location := by
    funext pair
    by_cases same : pair.1 = location
    · simp [same, notMember]
    · simp [same]
  rw [outside, outside, List.eraseP_filter, chosen]
  rfl

/-- If the entries at some locations are all that differs, others are all that differs if
they are among them. -/
theorem outside_eq_of_subset
    {wider : List Location}
    (subset : locations ⊆ wider)
    (same : after.outside locations = store.outside locations) :
    after.outside wider = store.outside wider := by
  have narrow (store : Store) : (store.outside locations).filter (fun pair => pair.1 ∉ wider) =
      store.outside wider := by
    rw [outside, List.filter_filter]
    refine List.filter_congr fun pair _ => ?_
    have covered : pair.1 ∈ locations → pair.1 ∈ wider := fun member => subset member
    simpa using mt covered
  rw [← narrow after, ← narrow store, same]

theorem lookup_outside (notMember : location ∉ locations) :
    (store.outside locations).lookup location = store.find? location := by
  unfold outside find?
  induction store.entries with
  | nil => rfl
  | cons head rest inductionHypothesis =>
      obtain ⟨first, kept⟩ := head
      by_cases inside : first ∈ locations
      · have different : location ≠ first := fun same => notMember (same ▸ inside)
        rw [List.filter_cons_of_neg (by simpa using inside), lookup_cons_eq, if_neg different,
          inductionHypothesis]
      · rw [List.filter_cons_of_pos (by simpa using inside), lookup_cons_eq, lookup_cons_eq,
          inductionHypothesis]

/-- Stores with the same entries elsewhere have the same entry at every location
elsewhere. -/
theorem find?_eq_of_outside_eq
    (same : after.outside locations = store.outside locations)
    (notMember : location ∉ locations) :
    after.find? location = store.find? location := by
  rw [← lookup_outside notMember, same, lookup_outside notMember]

/-! ## Stores without links -/

/-- No entry is a link. -/
def Linkless (store : Store) : Prop :=
  ∀ location target, (location, Entry.link target) ∉ store.entries

instance (store : Store) : Decidable store.Linkless :=
  decidable_of_iff (store.entries.all fun pair => !(pair.2 matches .link _)) <| by
    rw [List.all_eq_true]
    constructor
    · intro every location target member
      cases every _ member
    · rintro linkless ⟨location, _ | _ | target⟩ member
      · rfl
      · rfl
      · exact absurd member (linkless location target)

theorem Linkless.put
    (linkless : store.Linkless)
    (noLink : ∀ target, entry ≠ .link target) :
    (store.put location entry).Linkless := by
  intro other target member
  rcases mem_putEntry member with equal | member
  · exact noLink target (Prod.mk.inj equal).2.symm
  · exact linkless other target member

theorem Linkless.erase (linkless : store.Linkless) (location : Location) :
    (store.erase location).Linkless :=
  fun other target member => linkless other target (List.mem_of_mem_eraseP member)

theorem Linkless.find?_ne_link (linkless : store.Linkless) (location target : Location) :
    store.find? location ≠ some (.link target) :=
  fun found => linkless location target (mem_of_find?_eq_some found)

/-- What is no link is not followed. -/
theorem follow_of_ne_link
    (noLink : ∀ target, store.find? location ≠ some (.link target))
    (hops : Nat) :
    store.follow hops location = location := by
  cases hops with
  | zero => rfl
  | succ hops =>
      unfold follow
      split
      next target found => exact absurd found (noLink target)
      next => rfl

theorem Linkless.follow_eq
    (linkless : store.Linkless)
    (hops : Nat)
    (location : Location) :
    store.follow hops location = location :=
  follow_of_ne_link (linkless.find?_ne_link location) hops

theorem Linkless.resolveLocation_eq (linkless : store.Linkless) (location : Location) :
    store.resolveLocation location = location := by
  have walk (start : Location) : location.foldl store.step start = start ++ location := by
    induction location generalizing start with
    | nil => simp
    | cons name rest inductionHypothesis =>
        rw [List.foldl_cons, step, linkless.follow_eq, inductionHypothesis, List.append_assoc,
          List.singleton_append]
  exact walk []

/-- Without links a path leads where its names say. -/
theorem Linkless.resolve_eq (linkless : store.Linkless) (path : String) :
    store.resolve path = .ofPath path :=
  linkless.resolveLocation_eq _

end Store
end Baseline
