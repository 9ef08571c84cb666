import Baseline.Expected
import Baseline.Proofs.Scan.Chains
import Mathlib.Data.List.DropRight

/-!
# Sources that entries name

An entry may name a source by the path from the scanned root.  Paths are normalized before
they are compared, and the root is cut off as text, so this works for some spellings of the
root only (`Expected.Resolves`): an entry with the names that lead from the root to a scanned
source excuses it exactly if the root resolves and the names joined do not begin with a dot
and a backslash (`Expected.listed_source_excused_iff`).
-/

namespace Baseline
namespace Expected

variable
  {root path front rest : String}
  {text left right : List Char}
  {entry : MismatchEntry}

/-! ## Normal forms -/

/-- A path with slashes for backslashes. -/
def slashed (path : String) : List Char :=
  path.toList.map fun char => if char = '\\' then '/' else char

/-- A path without one leading dot and slash. -/
def undotted (path : List Char) : List Char :=
  match path with
  | '.' :: '/' :: rest => rest
  | other => other

theorem normalize_eq (path : String) : normalize path = undotted (slashed path) := rfl

theorem slashed_append (front rest : String) :
    slashed (front ++ "/" ++ rest) = slashed front ++ '/' :: slashed rest := by
  simp [slashed]

theorem slashed_eq_dot_iff : slashed path = ['.'] ↔ path = "." := by
  constructor
  · intro dot
    obtain ⟨char, path_eq, here⟩ := List.map_eq_singleton_iff.mp dot
    split at here
    · cases here
    · rw [here] at path_eq
      exact String.toList_injective path_eq
  · rintro rfl
    rfl

theorem undotted_eq_or (text : List Char) :
    text = '.' :: '/' :: undotted text ∨ text = undotted text := by
  unfold undotted
  split
  · exact .inl rfl
  · exact .inr rfl

theorem length_undotted_le (text : List Char) : (undotted text).length ≤ text.length := by
  rcases undotted_eq_or text with dotted | same
  · have lengths := congrArg List.length dotted
    simp only [List.length_cons] at lengths
    omega
  · rw [← same]

theorem undotted_eq_self_iff : undotted text = text ↔ ¬['.', '/'] <+: text := by
  unfold undotted
  split
  next rest =>
      refine iff_of_false (fun same => ?_) (not_not_intro (List.prefix_append ['.', '/'] rest))
      have lengths := congrArg List.length same
      simp only [List.length_cons] at lengths
      omega
  next other undotted =>
      refine iff_of_true rfl ?_
      rintro ⟨rest, rfl⟩
      exact undotted rest rfl

/-- What stands after a slash does not matter, unless only a dot stands before it. -/
theorem undotted_append
    (different : left ≠ ['.'])
    (right : List Char) :
    undotted (left ++ '/' :: right) = undotted left ++ '/' :: right := by
  rcases undotted_eq_or left with dotted | same
  · exact congrArg (fun text => undotted (text ++ '/' :: right)) dotted
  · rw [← same, undotted_eq_self_iff]
    have undotted := undotted_eq_self_iff.mp same.symm
    match left with
    | [] => simp [List.cons_prefix_cons]
    | [char] => simpa [List.cons_prefix_cons, eq_comm] using different
    | first :: second :: rest => simpa [List.cons_prefix_cons] using undotted

theorem normalize_below_dot (rest : String) : normalize ("." ++ "/" ++ rest) = slashed rest := by
  rw [normalize_eq, slashed_append]
  rfl

theorem normalize_below
    (different : front ≠ ".")
    (rest : String) :
    normalize (front ++ "/" ++ rest) = normalize front ++ '/' :: slashed rest := by
  rw [normalize_eq, slashed_append, undotted_append (mt slashed_eq_dot_iff.mp different),
    normalize_eq]

/-! ## Paths relative to a root -/

theorem trimSlashes_eq (text : List Char) : trimSlashes text = text.rdropWhile (· == '/') := rfl

theorem trimSlashes_append_slash (text : List Char) :
    trimSlashes (text ++ ['/']) = trimSlashes text :=
  List.rdropWhile_concat_pos (· == '/') text '/' rfl

theorem length_trimSlashes_le (text : List Char) : (trimSlashes text).length ≤ text.length :=
  (List.rdropWhile_prefix _ _).length_le

theorem trimSlashes_eq_self_iff : trimSlashes text = text ↔ text.getLast? ≠ some '/' := by
  rw [trimSlashes_eq, List.rdropWhile_eq_self_iff]
  rcases text.eq_nil_or_concat' with rfl | ⟨front, last, rfl⟩
  · simp
  · simp

theorem relativeTo?_of_idle
    (idle : trimSlashes left = [] ∨ trimSlashes left = ['.'])
    (path : List Char) :
    relativeTo? left path = some path := by
  simp only [relativeTo?, if_pos idle]

/-- Otherwise the root and a slash are cut off. -/
theorem relativeTo?_eq_some_iff
    {path rest : List Char}
    (busy : ¬(trimSlashes left = [] ∨ trimSlashes left = ['.'])) :
    relativeTo? left path = some rest ↔ path = trimSlashes left ++ '/' :: rest := by
  simp only [relativeTo?, if_neg busy]
  split
  next starts =>
      obtain ⟨tail, rfl⟩ := List.isPrefixOf_iff_prefix.mp starts
      rw [List.append_assoc, List.singleton_append, List.drop_length_add_append]
      simp
  next other =>
      refine iff_of_false (fun none => nomatch none) ?_
      rintro rfl
      exact other (List.isPrefixOf_iff_prefix.mpr ⟨rest, by simp⟩)

/-! ## Entries below a root -/

/-- The root, without one slash at its end, is the dot, or normalized it is neither empty nor
the dot and does not end in a slash. -/
def Resolves (root : String) : Prop :=
  Path.trunk root = "." ∨
    normalize (Path.trunk root) ≠ [] ∧ normalize (Path.trunk root) ≠ ['.'] ∧
      (normalize (Path.trunk root)).getLast? ≠ some '/'

instance (root : String) : Decidable (Resolves root) :=
  inferInstanceAs (Decidable (_ ∨ _ ∧ _ ∧ _))

theorem names_iff :
    names (some root) path entry ↔
      normalize path = normalize entry.source ∨
        relativeTo? (normalize root) (normalize path) = some (normalize entry.source) := by
  simp [names]

/-- A root and its trunk are the same for paths relative to them. -/
theorem trimSlashes_normalize_trunk (different : Path.trunk root ≠ ".") :
    trimSlashes (normalize root) = trimSlashes (normalize (Path.trunk root)) := by
  rcases Path.trunk_eq_or root with ends | same
  · have normal := normalize_below different ""
    rw [String.append_empty, ← ends] at normal
    rw [normal]
    exact trimSlashes_append_slash _
  · rw [← same]

theorem names_below_dot_iff
    (dot : Path.trunk root = ".")
    (named : entry.source = rest) :
    names (some root) (Path.trunk root ++ "/" ++ rest) entry ↔ ¬['.', '/'] <+: slashed rest := by
  have idle : trimSlashes (normalize root) = [] ∨ trimSlashes (normalize root) = ['.'] := by
    rcases Path.trunk_eq_or root with ends | same
    · rw [ends, dot]
      decide
    · rw [same, dot]
      decide
  rw [names_iff, relativeTo?_of_idle idle, dot, normalize_below_dot, Option.some.injEq, or_self,
    named, eq_comm]
  exact undotted_eq_self_iff

theorem names_below_iff
    (different : Path.trunk root ≠ ".")
    (named : entry.source = rest) :
    names (some root) (Path.trunk root ++ "/" ++ rest) entry ↔
      Resolves root ∧ ¬['.', '/'] <+: slashed rest := by
  have shorter := length_undotted_le (slashed rest)
  have longer : normalize (Path.trunk root) ++ '/' :: slashed rest ≠ undotted (slashed rest) := by
    intro same
    have lengths := congrArg List.length same
    simp only [List.length_append, List.length_cons] at lengths
    omega
  have trim_eq := trimSlashes_normalize_trunk different
  rw [names_iff, normalize_below different, named, normalize_eq rest, or_iff_right longer]
  by_cases idle : trimSlashes (normalize root) = [] ∨ trimSlashes (normalize root) = ['.']
  · rw [relativeTo?_of_idle idle, Option.some.injEq]
    refine iff_of_false longer ?_
    rintro ⟨dot | ⟨nonempty, undotted, unended⟩, _⟩
    · exact different dot
    · rw [trim_eq, trimSlashes_eq_self_iff.mpr unended] at idle
      exact idle.elim nonempty undotted
  · rw [relativeTo?_eq_some_iff idle, trim_eq]
    rw [trim_eq] at idle
    constructor
    · intro same
      -- Neither part can get longer, so both stay as they are.
      have trimmed := length_trimSlashes_le (normalize (Path.trunk root))
      have lengths := congrArg List.length same
      simp only [List.length_append, List.length_cons] at lengths
      obtain ⟨front_eq, rest_eq⟩ := List.append_inj same (by omega)
      obtain ⟨nonempty, undotted⟩ := not_or.mp idle
      rw [← front_eq] at nonempty undotted
      exact ⟨.inr ⟨nonempty, undotted, trimSlashes_eq_self_iff.mp front_eq.symm⟩,
        undotted_eq_self_iff.mp (List.cons.inj rest_eq).2.symm⟩
    · rintro ⟨dot | ⟨_, _, unended⟩, undotted⟩
      · exact absurd dot different
      · rw [trimSlashes_eq_self_iff.mpr unended, undotted_eq_self_iff.mpr undotted]

/-- An entry names a source below the root by the path from there exactly if the root resolves
and the path is no shorter when it is normalized. -/
theorem names_relative_iff (named : entry.source = rest) :
    names (some root) (Path.trunk root ++ "/" ++ rest) entry ↔
      Resolves root ∧ ¬['.', '/'] <+: slashed rest := by
  by_cases dot : Path.trunk root = "."
  · exact (names_below_dot_iff dot named).trans (and_iff_right (.inl dot)).symm
  · exact names_below_iff dot named

theorem dotted_slashed_iff :
    ['.', '/'] <+: slashed path ↔ ['.', '/'] <+: path.toList ∨ ['.', '\\'] <+: path.toList := by
  rw [slashed]
  match path.toList with
  | [] => simp
  | [char] => simp [List.cons_prefix_cons]
  | first :: second :: rest =>
      simp only [List.map_cons, List.cons_prefix_cons, List.nil_prefix, and_true]
      by_cases firstBack : first = '\\' <;> by_cases secondBack : second = '\\' <;>
        simp [firstBack, secondBack, eq_comm]

/-- No name is a dot, so names that are joined do not begin with a dot and a slash. -/
theorem not_dotted_toPath
    {names : List String}
    (proper : Location.Proper names) :
    ¬['.', '/'] <+: (Location.toPath names).toList := by
  cases names with
  | nil => decide
  | cons name rest =>
      obtain ⟨nameProper, _⟩ := List.forall_mem_cons.mp proper
      obtain ⟨tail, path_eq⟩ : ∃ tail,
          (Location.toPath (name :: rest)).toList = name.toList ++ tail := by
        cases rest with
        | nil => exact ⟨[], by rw [Location.toPath_singleton, List.append_nil]⟩
        | cons second rest =>
            rw [Location.toPath_cons_cons, String.append_assoc, String.toList_append]
            exact ⟨_, rfl⟩
      obtain ⟨counts, slashless⟩ := nameProper
      rw [path_eq]
      intro dotted
      match characters : name.toList with
      | [] =>
          rw [characters] at counts
          cases counts
      | [char] =>
          rw [characters] at counts dotted
          rw [← (List.cons_prefix_cons.mp dotted).1] at counts
          cases counts
      | first :: second :: more =>
          rw [characters] at slashless dotted
          have slash := (List.cons_prefix_cons.mp (List.cons_prefix_cons.mp dotted).2).1
          exact slashless (slash ▸ List.mem_cons_of_mem _ List.mem_cons_self)

/-- A mismatch is no regression exactly if an entry names its source. -/
theorem classify_ne_regression_iff {expected : Expected} :
    expected.classify path ≠ .regression ↔
      ∃ entry ∈ expected.known ++ expected.pending, names expected.root path entry := by
  rw [classify, ← List.any_eq_true, List.any_append, Bool.or_eq_true]
  split
  next known => simp [known]
  next unknown =>
    split
    next pending => simp [pending]
    next unexpected => simp [unknown, unexpected]

/-- An entry with the names that lead to a source excuses it exactly if it names it. -/
theorem excused_iff_names (root path source : String) :
    (∀ expected : Expected, expected.root = some root →
        (∃ entry ∈ expected.known ++ expected.pending, entry.source = source) →
        expected.classify path ≠ .regression) ↔
      names (some root) path { source } := by
  constructor
  · intro excused
    obtain ⟨entry, member, names⟩ := classify_ne_regression_iff.mp
      (excused ⟨[{ source }], [], some root⟩ rfl ⟨{ source }, List.mem_cons_self, rfl⟩)
    rw [List.mem_singleton.mp member] at names
    exact names
  · rintro named expected rooted ⟨entry, member, rfl⟩
    exact classify_ne_regression_iff.mpr ⟨entry, member, rooted ▸ named⟩

/-! ## Entries that name scanned sources -/

/-- Each scanned source is excused by an entry with the names that lead to it from the root,
joined with slashes, exactly if the root resolves and the names joined do not begin with a dot
and a backslash. -/
theorem listed_source_excused_iff
    {store : Store}
    {writers : List Store.Writer}
    {options : ScanOptions}
    {paths : List String}
    (reachable : Store.Reachable store writers)
    (found : scan store options root = .ok paths)
    (member : path ∈ paths) :
    ∃ names,
      path = Path.descend root names ∧ Scan.Leads store root names ∧
        (names ≠ [] →
          ((∀ expected : Expected, expected.root = some root →
              (∃ entry ∈ expected.known ++ expected.pending,
                entry.source = Location.toPath names) →
              expected.classify path ≠ .regression) ↔
            Resolves root ∧ ¬['.', '\\'] <+: (Location.toPath names).toList)) := by
  obtain ⟨names, path_eq, leads, _⟩ := Scan.exists_leads_of_scan found member
  refine ⟨names, path_eq, leads, fun nonempty => ?_⟩
  have proper := leads.proper reachable.wellFormed
  have dotted_iff : ['.', '/'] <+: slashed (Location.toPath names) ↔
      ['.', '\\'] <+: (Location.toPath names).toList :=
    dotted_slashed_iff.trans (or_iff_right (not_dotted_toPath proper))
  rw [excused_iff_names, path_eq, Path.descend_eq_trunk proper nonempty, ← dotted_iff]
  exact names_relative_iff rfl

example : Resolves "tests" ∧ Resolves "./tests/" ∧ Resolves "." ∧ Resolves "./" := by decide

example : ¬Resolves "" ∧ ¬Resolves "/" ∧ ¬Resolves "tests//" ∧ ¬Resolves "./." := by decide

/-- A dot before the root and slashes around it do no harm. -/
theorem listed_source_in_dotted_root_excused :
    scan (Store.empty.withFile "t/a.js" "x") { sourceExtension := "js" } "./t/" =
        .ok ["./t/a.js"] ∧
      ∀ expected : Expected, expected.root = some "./t/" →
        (∃ entry ∈ expected.known ++ expected.pending, entry.source = "a.js") →
        expected.classify "./t/a.js" ≠ .regression := by
  have found : scan (Store.empty.withFile "t/a.js" "x") { sourceExtension := "js" } "./t/" =
      .ok ["./t/a.js"] := by
    decide +kernel
  have reachable : Store.Reachable (Store.empty.withFile "t/a.js" "x") [] :=
    .withFile _ _ (.empty _)
  obtain ⟨names, path_eq, leads, excused⟩ :=
    listed_source_excused_iff reachable found List.mem_cons_self
  have names_eq : ["a.js"] = names := by
    have location_eq := congrArg Location.ofPath path_eq
    rw [Path.ofPath_descend (leads.proper reachable.wellFormed)] at location_eq
    exact (List.cons_inj_right "t").mp location_eq
  rw [← names_eq] at excused
  exact ⟨found, (excused (List.cons_ne_nil _ _)).mpr ⟨by decide, by decide⟩⟩

/-- A path from the root of all files keeps its slash, so the entry names nothing. -/
theorem listed_source_in_root_regresses :
    scan (Store.empty.withFile "a.js" "x") { sourceExtension := "js" } "/" = .ok ["/a.js"] ∧
      Path.descend "/" ["a.js"] = "/a.js" ∧
        Scan.Leads (Store.empty.withFile "a.js" "x") "/" ["a.js"] ∧
          (⟨[{ source := Location.toPath ["a.js"] }], [], some "/"⟩ : Expected).classify "/a.js" =
            .regression := by
  refine ⟨by decide +kernel, by decide +kernel, ⟨Scan.lists_iff.mpr ?_, trivial⟩, ?_⟩
  · decide +kernel
  · decide +kernel

end Expected
end Baseline
