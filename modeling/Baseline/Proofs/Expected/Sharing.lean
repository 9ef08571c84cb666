import Baseline.Proofs.Expected.Naming

/-!
# Sources that share an entry

An entry names a source as it was scanned or relative to the root.  Among the sources of one
scan it names at most one, unless two of them differ in nothing but backslashes, or one of
them has the path relative to the root that another one has as scanned; and such sources do
share an entry (`Expected.shared_entry_iff_confusable`).
-/

namespace Baseline
namespace Expected

variable
  {root : String}
  {left right : String}

/-- The path on the right, taken relative to the root, is the one on the left as scanned. -/
def Repeats (root left right : String) : Prop :=
  relativeTo? (normalize root) (normalize right) = some (normalize left)

/-- The paths differ in nothing but backslashes, or one of them repeats the other. -/
def Confusable (root left right : String) : Prop :=
  slashed left = slashed right ∨ Repeats root left right ∨ Repeats root right left

instance (root left right : String) : Decidable (Repeats root left right) :=
  inferInstanceAs (Decidable (_ = _))

instance (root left right : String) : Decidable (Confusable root left right) :=
  inferInstanceAs (Decidable (_ ∨ _ ∨ _))

/-! ## Two paths -/

/-- Different paths are different relative to a root. -/
theorem relativeTo?_inj
    {root left right rest : List Char}
    (leftRest : relativeTo? root left = some rest)
    (rightRest : relativeTo? root right = some rest) :
    left = right := by
  by_cases idle : trimSlashes root = [] ∨ trimSlashes root = ['.']
  · rw [relativeTo?_of_idle idle] at leftRest rightRest
    exact Option.some.inj (leftRest.trans rightRest.symm)
  · rw [relativeTo?_eq_some_iff idle] at leftRest rightRest
    exact leftRest.trans rightRest.symm

theorem exists_names_both_iff (root left right : String) :
    (∃ entry, names (some root) left entry ∧ names (some root) right entry) ↔
      normalize left = normalize right ∨ Repeats root left right ∨ Repeats root right left := by
  simp only [names_iff]
  constructor
  · rintro ⟨entry, leftExact | leftRelative, rightExact | rightRelative⟩
    · exact .inl (leftExact.trans rightExact.symm)
    · exact .inr (.inl (rightRelative.trans (congrArg some leftExact.symm)))
    · exact .inr (.inr (leftRelative.trans (congrArg some rightExact.symm)))
    · exact .inl (relativeTo?_inj leftRelative rightRelative)
  · rintro (same | rightRepeats | leftRepeats)
    · exact ⟨{ source := left }, .inl rfl, .inl same.symm⟩
    · exact ⟨{ source := left }, .inl rfl, .inr rightRepeats⟩
    · exact ⟨{ source := right }, .inr leftRepeats, .inl rfl⟩

/-- Cutting a dot and a slash off makes no paths below one root the same. -/
theorem normalize_below_inj (front left right : String) :
    normalize (front ++ "/" ++ left) = normalize (front ++ "/" ++ right) ↔
      slashed (front ++ "/" ++ left) = slashed (front ++ "/" ++ right) := by
  rw [slashed_append, slashed_append, List.append_cancel_left_eq, List.cons_inj_right]
  by_cases dot : front = "."
  · rw [dot, normalize_below_dot, normalize_below_dot]
  · rw [normalize_below dot, normalize_below dot, List.append_cancel_left_eq, List.cons_inj_right]

/-! ## The sources of a scan -/

theorem length_le_one_or_exists_ne
    {paths : List String}
    (distinct : paths.Nodup) :
    paths.length ≤ 1 ∨ ∃ left ∈ paths, ∃ right ∈ paths, left ≠ right := by
  match paths with
  | [] => exact .inl (Nat.zero_le 1)
  | [path] => exact .inl (Nat.le_refl 1)
  | left :: right :: rest =>
      have different : left ≠ right := (List.pairwise_cons.mp distinct).1 right List.mem_cons_self
      exact .inr ⟨left, List.mem_cons_self, right, List.mem_cons_of_mem _ List.mem_cons_self,
        different⟩

section Scanned

variable
  {store : Store}
  {options : ScanOptions}
  {paths : List String}

/-- A scan that finds several sources finds them below the root. -/
theorem exists_below_of_scan
    (wellFormed : store.WellFormed)
    (found : scan store options root = .ok paths)
    (leftMember : left ∈ paths)
    (rightMember : right ∈ paths)
    (different : left ≠ right) :
    ∃ rest, left = Path.trunk root ++ "/" ++ rest := by
  obtain ⟨names, rfl, leads, source⟩ := Scan.exists_leads_of_scan found leftMember
  obtain ⟨others, rfl, otherLeads, _⟩ := Scan.exists_leads_of_scan found rightMember
  cases names with
  | nil =>
      rw [otherLeads.eq_nil source.lookup_ne_directory] at different
      exact absurd rfl different
  | cons name rest =>
      exact ⟨_, Path.descend_eq_trunk (leads.proper wellFormed) (List.cons_ne_nil _ _) root⟩

/-- Two sources of a scan share an entry exactly if they are confusable. -/
theorem exists_names_both_iff_confusable
    (wellFormed : store.WellFormed)
    (found : scan store options root = .ok paths)
    (leftMember : left ∈ paths)
    (rightMember : right ∈ paths)
    (different : left ≠ right) :
    (∃ entry, names (some root) left entry ∧ names (some root) right entry) ↔
      Confusable root left right := by
  obtain ⟨leftRest, left_eq⟩ :=
    exists_below_of_scan wellFormed found leftMember rightMember different
  obtain ⟨rightRest, right_eq⟩ :=
    exists_below_of_scan wellFormed found rightMember leftMember different.symm
  rw [exists_names_both_iff, Confusable, left_eq, right_eq, normalize_below_inj]

/-- A scan finds no path twice.  Two of its paths share an entry exactly if they are
confusable, so every entry names at most one of them unless two are. -/
theorem shared_entry_iff_confusable
    {writers : List Store.Writer}
    (reachable : Store.Reachable store writers)
    (found : scan store options root = .ok paths) :
    paths.Nodup ∧
      (∀ left ∈ paths, ∀ right ∈ paths, left ≠ right →
        ((∃ entry, names (some root) left entry ∧ names (some root) right entry) ↔
          Confusable root left right)) ∧
      ∀ entry,
        paths.countP (names (some root) · entry) ≤ 1 ∨
          ∃ left ∈ paths, ∃ right ∈ paths, left ≠ right ∧ Confusable root left right := by
  have wellFormed := reachable.wellFormed
  have distinct := Scan.nodup_of_scan wellFormed found
  refine ⟨distinct, fun left leftMember right rightMember different =>
    exists_names_both_iff_confusable wellFormed found leftMember rightMember different, ?_⟩
  intro entry
  rw [List.countP_eq_length_filter]
  refine (length_le_one_or_exists_ne (distinct.filter _)).imp_right ?_
  rintro ⟨left, leftFiltered, right, rightFiltered, different⟩
  obtain ⟨leftMember, leftNamed⟩ := List.mem_filter.mp leftFiltered
  obtain ⟨rightMember, rightNamed⟩ := List.mem_filter.mp rightFiltered
  exact ⟨left, leftMember, right, rightMember, different,
    (exists_names_both_iff_confusable wellFormed found leftMember rightMember different).mp
      ⟨entry, leftNamed, rightNamed⟩⟩

/-- Namesakes in other directories are not confusable, so no entry names two of them. -/
theorem entry_names_one_of_namesakes :
    let store := (Store.empty.withFile "t/a.js" "x").withFile "t/sub/a.js" "x"
    scan store { sourceExtension := "js" } "t" = .ok ["t/a.js", "t/sub/a.js"] ∧
      ∀ entry, ["t/a.js", "t/sub/a.js"].countP (names (some "t") · entry) ≤ 1 := by
  intro store
  have reachable : Store.Reachable store [] := .withFile _ _ (.withFile _ _ (.empty _))
  have found : scan store { sourceExtension := "js" } "t" = .ok ["t/a.js", "t/sub/a.js"] := by
    decide +kernel
  obtain ⟨_, _, once⟩ := shared_entry_iff_confusable reachable found
  refine ⟨found, fun entry => (once entry).resolve_right ?_⟩
  decide +kernel

/-- An entry names two sources if the names below the root repeat the root, and also if two
sources differ in a backslash only. -/
theorem entry_names_two_sources :
    let nested := (Store.empty.withFile "t/a.js" "x").withFile "t/t/a.js" "x"
    let backslashed := (Store.empty.withFile "t/b/a.js" "x").withFile "t/b\\a.js" "x"
    (scan nested { sourceExtension := "js" } "t" = .ok ["t/a.js", "t/t/a.js"] ∧
        names (some "t") "t/a.js" { source := "t/a.js" } ∧
          names (some "t") "t/t/a.js" { source := "t/a.js" }) ∧
      scan backslashed { sourceExtension := "js" } "t" = .ok ["t/b/a.js", "t/b\\a.js"] ∧
        names (some "t") "t/b/a.js" { source := "b/a.js" } ∧
          names (some "t") "t/b\\a.js" { source := "b/a.js" } := by
  refine ⟨⟨?_, ?_, ?_⟩, ?_, ?_, ?_⟩
  all_goals decide +kernel

end Scanned

end Expected
end Baseline
