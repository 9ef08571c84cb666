import Baseline.Proofs.Tree.Reading

/-!
# Open groups

Whether tokens nest, and why they do not, depends on the groups that are open
while they are read and not on the nodes in them.  `Openings.check` keeps track
of the open groups alone: it succeeds exactly when nesting does, and fails in
the same way (`check_eq_map_nest`).  Tokens that are no brackets do not matter
to it (`check_kept`).
-/

namespace Baseline

/-- The kinds of the open groups and where they start, innermost first. -/
abbrev Openings := List (Delimiter × Position)

namespace Openings

/-- Read one more token. -/
def read (openings : Openings) (token : Token) : Except ParseFailure Openings :=
  match token.bracket? with
  | none => .ok openings
  | some (.opening delimiter) => .ok ((delimiter, token.start) :: openings)
  | some (.closing delimiter) =>
      match openings with
      | [] => .error ((NestingError.unexpected token.text).failureAt token.start)
      | (expected, _) :: outer =>
          if expected = delimiter then .ok outer
          else .error ((NestingError.mismatched token.text expected).failureAt token.start)

/-- At the end no group may be open. -/
def finish : Openings → Except ParseFailure Unit
  | [] => .ok ()
  | (delimiter, start) :: _ => .error ((NestingError.unclosed delimiter).failureAt start)

/-- Check that tokens nest. -/
def check (tokens : List Token) : Except ParseFailure Unit :=
  tokens.foldlM read [] >>= finish

variable
  {openings after : Openings}
  {token : Token}
  {tokens : List Token}
  {delimiter : Delimiter}

theorem read_of_plain (plain : token.bracket? = none) : openings.read token = .ok openings := by
  rw [read, plain]

theorem read_of_opening (opens : token.bracket? = some (.opening delimiter)) :
    openings.read token = .ok ((delimiter, token.start) :: openings) := by
  rw [read, opens]

theorem read_nil_of_closing (closes : token.bracket? = some (.closing delimiter)) :
    read [] token = .error ((NestingError.unexpected token.text).failureAt token.start) := by
  rw [read, closes]

theorem read_cons_of_closing
    {expected : Delimiter}
    {start : Position}
    {outer : Openings}
    (closes : token.bracket? = some (.closing delimiter)) :
    read ((expected, start) :: outer) token =
      if expected = delimiter then .ok outer
      else .error ((NestingError.mismatched token.text expected).failureAt token.start) := by
  rw [read, closes]

end Openings

/-! ## Partial trees -/

namespace PartialTree

/-- The open groups of a partial tree. -/
def openings (tree : PartialTree) : Openings :=
  tree.groups.map fun group => (group.delimiter, group.start)

@[simp] theorem openings_add (tree : PartialTree) (node : Node) :
    (tree.add node).openings = tree.openings := by
  obtain ⟨groups, nodes⟩ := tree
  cases groups <;> rfl

/-- Reading a token changes the open groups of a partial tree as `Openings.read` says. -/
theorem map_openings_push (tree : PartialTree) (token : Token) :
    (tree.push token).map openings = tree.openings.read token := by
  cases found : token.bracket? with
  | none =>
      rw [push_of_plain found, Openings.read_of_plain found, Except.map, openings_add]
  | some bracket =>
      cases bracket with
      | opening delimiter =>
          rw [push_of_opening found, Openings.read_of_opening found, Except.map]
          rfl
      | closing delimiter =>
          rw [push_of_closing found]
          obtain ⟨groups, nodes⟩ := tree
          cases groups with
          | nil => exact (Openings.read_nil_of_closing found).symm
          | cons inner outer =>
              refine Eq.trans ?_ (Openings.read_cons_of_closing found).symm
              by_cases same : inner.delimiter = delimiter
              · simp only [close, same, if_true, Except.map, openings_add]
                rfl
              · simp only [close, same, if_false, Except.map]

theorem map_openings_foldlM (tree : PartialTree) (tokens : List Token) :
    (tokens.foldlM push tree).map openings = tokens.foldlM Openings.read tree.openings := by
  induction tokens generalizing tree with
  | nil => rfl
  | cons token rest inductionHypothesis =>
      rw [List.foldlM_cons, List.foldlM_cons, ← map_openings_push]
      cases tree.push token with
      | error failure => rfl
      | ok next => exact inductionHypothesis next

theorem finish_openings (tree : PartialTree) :
    tree.openings.finish = tree.finish.map fun _ => () := by
  obtain ⟨groups, nodes⟩ := tree
  cases groups <;> rfl

end PartialTree

namespace Openings

/-- Tokens nest if they pass the check, and fail to nest as they fail to pass. -/
theorem check_eq_map_nest (tokens : List Token) :
    check tokens = (nest tokens).map fun _ => () := by
  have openings_eq := PartialTree.map_openings_foldlM .empty tokens
  rw [check, nest]
  change tokens.foldlM read PartialTree.empty.openings >>= finish = _
  rw [← openings_eq]
  cases tokens.foldlM PartialTree.push .empty with
  | error failure => rfl
  | ok tree => exact tree.finish_openings

theorem nest_eq_error_iff {tokens : List Token} {failure : ParseFailure} :
    nest tokens = .error failure ↔ check tokens = .error failure := by
  rw [check_eq_map_nest]
  cases nest tokens <;> simp [Except.map]

theorem exists_nest_iff {tokens : List Token} :
    (∃ nodes, nest tokens = .ok nodes) ↔ check tokens = .ok () := by
  rw [check_eq_map_nest]
  cases nest tokens <;> simp [Except.map]

/-- Only brackets matter to the check. -/
theorem foldlM_read_filter
    {keeps : Token → Bool}
    (bracketsKept : ∀ {token}, keeps token = false → token.bracket? = none)
    (openings : Openings)
    (tokens : List Token) :
    (tokens.filter keeps).foldlM read openings = tokens.foldlM read openings := by
  induction tokens generalizing openings with
  | nil => rfl
  | cons token rest inductionHypothesis =>
      cases kept : keeps token with
      | false =>
          rw [List.filter_cons_of_neg (by simp [kept]), List.foldlM_cons,
            read_of_plain (bracketsKept kept)]
          exact inductionHypothesis openings
      | true =>
          rw [List.filter_cons_of_pos kept, List.foldlM_cons, List.foldlM_cons]
          simp only [inductionHypothesis]

/-- A tree may leave tokens out; whether they nest does not depend on it. -/
theorem check_kept (options : TreeOptions) (tokens : List Token) :
    check (options.kept tokens) = check tokens := by
  rw [check, check, TreeOptions.kept, foldlM_read_filter TreeOptions.bracket?_of_dropped]

end Openings
end Baseline
