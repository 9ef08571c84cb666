import Baseline.Proofs.Tree.Openings
import Mathlib.Data.List.Induction

/-!
# Balanced brackets

Brackets are balanced if they can be derived in the grammar of nested pairs
(`Balanced`).  A source is parsed exactly if it is read as tokens whose brackets
are balanced.  If they are not, the first closing bracket without a partner
decides the failure, and if there is none, the innermost group that is still
open at the end does (`Refusal`, `parse_accepts_balanced`).

The check that keeps track of the open groups is tied to the grammar by an
invariant: between the opening brackets of the open groups, brackets are
balanced (`Leaves`).
-/

namespace Baseline

/-- Sequences of brackets in which each opening bracket is followed by balanced
brackets and the closing bracket of its kind. -/
inductive Balanced : List Bracket → Prop
  /-- No bracket. -/
  | nil : Balanced []
  /-- A pair of brackets with balanced brackets between and after them. -/
  | pair {delimiter inside rest}
      (insideBalanced : Balanced inside)
      (restBalanced : Balanced rest) :
      Balanced (.opening delimiter :: (inside ++ .closing delimiter :: rest))

theorem Balanced.append
    {left right : List Bracket}
    (leftBalanced : Balanced left)
    (rightBalanced : Balanced right) :
    Balanced (left ++ right) := by
  induction leftBalanced with
  | nil => exact rightBalanced
  | pair insideBalanced _ _ inductionHypothesis =>
      rw [List.cons_append, List.append_assoc, List.cons_append]
      exact .pair insideBalanced inductionHypothesis

namespace Token

/-- The brackets among tokens. -/
def brackets (tokens : List Token) : List Bracket :=
  tokens.filterMap bracket?

/-- The innermost group that the tokens leave open is of this kind and starts with this
token: all brackets after it are balanced. -/
inductive LeavesOpen (delimiter : Delimiter) (opener : Token) : List Token → Prop
  /-- The tokens before the group, its opening bracket, and the tokens in it. -/
  | intro {outer inside}
      (opens : opener.bracket? = some (.opening delimiter))
      (balanced : Balanced (brackets inside)) :
      LeavesOpen delimiter opener (outer ++ opener :: inside)

/-- Every closing bracket among the tokens has a partner: an opening bracket of its kind,
with balanced brackets between the two. -/
def Matched (tokens : List Token) : Prop :=
  ∀ before closer after delimiter,
    tokens = before ++ closer :: after →
      closer.bracket? = some (.closing delimiter) →
        ∃ opener, LeavesOpen delimiter opener before

/-- Why tokens do not nest. -/
inductive Refusal : List Token → ParseFailure → Prop
  /-- The first closing bracket without a partner stands where no group is open. -/
  | unexpected {before closer after delimiter}
      (matched : Matched before)
      (balanced : Balanced (brackets before))
      (closes : closer.bracket? = some (.closing delimiter)) :
      Refusal (before ++ closer :: after)
        ((NestingError.unexpected closer.text).failureAt closer.start)
  /-- The first closing bracket without a partner stands in a group of another kind. -/
  | mismatched {before closer after opener delimiter expected}
      (matched : Matched before)
      (leavesOpen : LeavesOpen expected opener before)
      (closes : closer.bracket? = some (.closing delimiter))
      (different : expected ≠ delimiter) :
      Refusal (before ++ closer :: after)
        ((NestingError.mismatched closer.text expected).failureAt closer.start)
  /-- Every closing bracket has a partner, and a group is left open. -/
  | unclosed {tokens opener delimiter}
      (matched : Matched tokens)
      (leavesOpen : LeavesOpen delimiter opener tokens) :
      Refusal tokens ((NestingError.unclosed delimiter).failureAt opener.start)

/-- The tokens leave these groups open, innermost first. -/
inductive Leaves : List Token → Openings → Prop
  /-- Balanced brackets leave no group open. -/
  | nothing {tokens} (balanced : Balanced (brackets tokens)) : Leaves tokens []
  /-- An opening bracket with balanced brackets after it leaves one more group open. -/
  | group {outer opener inside delimiter openings}
      (outerLeaves : Leaves outer openings)
      (opens : opener.bracket? = some (.opening delimiter))
      (balanced : Balanced (brackets inside)) :
      Leaves (outer ++ opener :: inside) ((delimiter, opener.start) :: openings)

variable
  {tokens before left right : List Token}
  {token opener : Token}
  {delimiter : Delimiter}
  {openings after : Openings}
  {failure : ParseFailure}

theorem brackets_append (left right : List Token) :
    brackets (left ++ right) = brackets left ++ brackets right :=
  List.filterMap_append

theorem brackets_cons_of_some
    {bracket : Bracket}
    (found : token.bracket? = some bracket)
    (tokens : List Token) :
    brackets (token :: tokens) = bracket :: brackets tokens :=
  List.filterMap_cons_some found

theorem brackets_singleton_of_none (plain : token.bracket? = none) : brackets [token] = [] :=
  List.filterMap_cons_none plain

/-! ## The open groups after balanced brackets -/

theorem foldlM_read_append_eq_ok_iff :
    (left ++ right).foldlM Openings.read openings = .ok after ↔
      ∃ middle, left.foldlM Openings.read openings = .ok middle ∧
        right.foldlM Openings.read middle = .ok after := by
  rw [List.foldlM_append, Answer.bind_eq_ok_iff]

theorem foldlM_read_of_plain
    (plain : ∀ token ∈ tokens, token.bracket? = none)
    (openings : Openings) :
    tokens.foldlM Openings.read openings = .ok openings := by
  induction tokens with
  | nil => rfl
  | cons token rest inductionHypothesis =>
      rw [List.foldlM_cons, Openings.read_of_plain (plain token List.mem_cons_self)]
      exact inductionHypothesis fun other member => plain other (List.mem_cons_of_mem _ member)

/-- Balanced brackets leave the open groups as they are. -/
theorem foldlM_read_of_balanced
    (balanced : Balanced (brackets tokens))
    (openings : Openings) :
    tokens.foldlM Openings.read openings = .ok openings := by
  generalize word_eq : brackets tokens = word at balanced
  induction balanced generalizing tokens openings with
  | nil => exact foldlM_read_of_plain (List.filterMap_eq_nil_iff.mp word_eq) openings
  | @pair delimiter inside rest _ _ insideHypothesis restHypothesis =>
      obtain ⟨plain, opener, later, rfl, plainBefore, opens, later_eq⟩ :=
        List.filterMap_eq_cons_iff.mp word_eq
      obtain ⟨insideTokens, ending, rfl, inside_eq, ending_eq⟩ :=
        List.filterMap_eq_append_iff.mp later_eq
      obtain ⟨plainInside, closer, restTokens, rfl, plainEnding, closes, rest_eq⟩ :=
        List.filterMap_eq_cons_iff.mp ending_eq
      simp only [foldlM_read_append_eq_ok_iff, List.foldlM_cons, Answer.bind_eq_ok_iff]
      refine ⟨openings, foldlM_read_of_plain plainBefore openings,
        (delimiter, opener.start) :: openings, Openings.read_of_opening opens,
        _, insideHypothesis _ inside_eq, _, foldlM_read_of_plain plainEnding _,
        openings, ?_, restHypothesis openings rest_eq⟩
      rw [Openings.read_cons_of_closing closes, if_pos rfl]

/-- The innermost open group is on top. -/
theorem LeavesOpen.openings_eq
    (leavesOpen : LeavesOpen delimiter opener tokens)
    (passed : tokens.foldlM Openings.read [] = .ok openings) :
    ∃ outer, openings = (delimiter, opener.start) :: outer := by
  obtain ⟨opens, balanced⟩ := leavesOpen
  obtain ⟨outer, _, passed⟩ := foldlM_read_append_eq_ok_iff.mp passed
  rw [List.foldlM_cons, Openings.read_of_opening opens] at passed
  refine ⟨outer, ?_⟩
  exact Except.ok.inj (passed.symm.trans (foldlM_read_of_balanced balanced _))

/-! ## The open groups after any tokens -/

theorem Leaves.append
    (leaves : Leaves left openings)
    (balanced : Balanced (brackets right)) :
    Leaves (left ++ right) openings := by
  cases leaves with
  | nothing leftBalanced =>
      exact .nothing (brackets_append _ _ ▸ leftBalanced.append balanced)
  | group outerLeaves opens insideBalanced =>
      rw [List.append_assoc, List.cons_append]
      exact .group outerLeaves opens (brackets_append _ _ ▸ insideBalanced.append balanced)

theorem Leaves.leavesOpen
    {start : Position}
    {outer : Openings}
    (leaves : Leaves tokens ((delimiter, start) :: outer)) :
    ∃ opener, LeavesOpen delimiter opener tokens ∧ opener.start = start := by
  cases leaves with
  | group _ opens balanced => exact ⟨_, .intro opens balanced, rfl⟩

theorem Leaves.balanced (leaves : Leaves tokens []) : Balanced (brackets tokens) := by
  cases leaves with
  | nothing balanced => exact balanced

/-- A closing bracket ends the innermost open group. -/
theorem Leaves.close
    {start : Position}
    (leaves : Leaves tokens ((delimiter, start) :: openings))
    (closes : token.bracket? = some (.closing delimiter)) :
    Leaves (tokens ++ [token]) openings := by
  cases leaves with
  | @group _ opener inside _ _ outerLeaves opens balanced =>
      rw [List.append_assoc, List.cons_append]
      refine outerLeaves.append ?_
      rw [brackets_cons_of_some opens, brackets_append, brackets_cons_of_some closes]
      exact .pair balanced .nil

theorem matched_nil : Matched [] := by
  intro before closer after delimiter tokens_eq
  cases before <;> cases tokens_eq

theorem Matched.of_append (matched : Matched (left ++ right)) : Matched left := by
  intro before closer after delimiter left_eq closes
  refine matched before closer (after ++ right) delimiter ?_ closes
  rw [left_eq, List.append_assoc, List.cons_append]

theorem Matched.snoc
    (matched : Matched tokens)
    (partner : ∀ delimiter, token.bracket? = some (.closing delimiter) →
      ∃ opener, LeavesOpen delimiter opener tokens) :
    Matched (tokens ++ [token]) := by
  intro before closer after delimiter tokens_eq closes
  rcases after.eq_nil_or_concat with rfl | ⟨shorter, last, rfl⟩
  · obtain ⟨rfl, rfl⟩ := List.append_singleton_inj.mp tokens_eq
    exact partner delimiter closes
  · rw [List.concat_eq_append, ← List.cons_append, ← List.append_assoc] at tokens_eq
    obtain ⟨rfl, -⟩ := List.append_singleton_inj.mp tokens_eq
    exact matched before closer shorter delimiter rfl closes

/-- Tokens that are read without a failure are matched, and the open groups are those
that they leave open. -/
theorem matched_and_leaves_of_foldlM (passed : tokens.foldlM Openings.read [] = .ok openings) :
    Matched tokens ∧ Leaves tokens openings := by
  -- From the last token: what is left open is told by the brackets at the end.
  induction tokens using List.reverseRecOn generalizing openings with
  | nil =>
      cases passed
      exact ⟨matched_nil, .nothing .nil⟩
  | append_singleton tokens token inductionHypothesis =>
      obtain ⟨middle, earlier, last⟩ := foldlM_read_append_eq_ok_iff.mp passed
      obtain ⟨matched, leaves⟩ := inductionHypothesis earlier
      have read_eq : middle.read token = .ok openings := by
        simpa using last
      cases found : token.bracket? with
      | none =>
          rw [Openings.read_of_plain found, Except.ok.injEq] at read_eq
          refine ⟨matched.snoc (by simp [found]), ?_⟩
          refine read_eq ▸ leaves.append ?_
          rw [brackets_singleton_of_none found]
          exact .nil
      | some bracket =>
          cases bracket with
          | opening delimiter =>
              rw [Openings.read_of_opening found, Except.ok.injEq] at read_eq
              refine ⟨matched.snoc (by simp [found]), ?_⟩
              exact read_eq ▸ .group leaves found .nil
          | closing delimiter =>
              cases middle with
              | nil =>
                  rw [Openings.read_nil_of_closing found] at read_eq
                  cases read_eq
              | cons innermost outer =>
                  obtain ⟨expected, start⟩ := innermost
                  rw [Openings.read_cons_of_closing found] at read_eq
                  split at read_eq
                  next same =>
                    cases read_eq
                    subst same
                    obtain ⟨opener, leavesOpen, _⟩ := leaves.leavesOpen
                    refine ⟨matched.snoc fun other closes => ?_, leaves.close found⟩
                    rw [found] at closes
                    cases closes
                    exact ⟨opener, leavesOpen⟩
                  next => cases read_eq

/-- Matched tokens are read without a failure. -/
theorem Matched.exists_foldlM (matched : Matched tokens) :
    ∃ openings, tokens.foldlM Openings.read [] = .ok openings := by
  induction tokens using List.reverseRecOn with
  | nil => exact ⟨[], rfl⟩
  | append_singleton tokens token inductionHypothesis =>
      obtain ⟨openings, passed⟩ := inductionHypothesis matched.of_append
      have exists_read : ∃ after, openings.read token = .ok after := by
        cases found : token.bracket? with
        | none => exact ⟨_, Openings.read_of_plain found⟩
        | some bracket =>
            cases bracket with
            | opening delimiter => exact ⟨_, Openings.read_of_opening found⟩
            | closing delimiter =>
                obtain ⟨opener, leavesOpen⟩ := matched tokens token [] delimiter rfl found
                obtain ⟨outer, rfl⟩ := leavesOpen.openings_eq passed
                refine ⟨outer, ?_⟩
                rw [Openings.read_cons_of_closing found, if_pos rfl]
      obtain ⟨after, read_eq⟩ := exists_read
      exact ⟨after, foldlM_read_append_eq_ok_iff.mpr ⟨openings, passed, by simpa using read_eq⟩⟩

/-! ## The first failure -/

/-- Reading fails at the first token that cannot be read. -/
theorem foldlM_read_eq_error_iff :
    tokens.foldlM Openings.read openings = .error failure ↔
      ∃ before token after middle,
        tokens = before ++ token :: after ∧
          before.foldlM Openings.read openings = .ok middle ∧
            middle.read token = .error failure := by
  constructor
  · intro refused
    induction tokens generalizing openings with
    | nil => cases refused
    | cons token rest inductionHypothesis =>
        rw [List.foldlM_cons, Answer.bind_eq_error_iff] at refused
        rcases refused with refused | ⟨next, read_eq, refused⟩
        · exact ⟨[], token, rest, openings, rfl, rfl, refused⟩
        · obtain ⟨before, last, after, middle, rfl, passed, refused⟩ := inductionHypothesis refused
          refine ⟨token :: before, last, after, middle, rfl, ?_, refused⟩
          rw [List.foldlM_cons, read_eq]
          exact passed
  · rintro ⟨before, token, after, middle, rfl, passed, refused⟩
    rw [List.foldlM_append, passed]
    change (token :: after).foldlM Openings.read middle = _
    rw [List.foldlM_cons, refused]
    rfl

/-- Tokens that do not pass the check are refused for the reason that it gives. -/
theorem refusal_of_check (refused : Openings.check tokens = .error failure) :
    Refusal tokens failure := by
  rcases Answer.bind_eq_error_iff.mp refused with refused | ⟨openings, passed, unfinished⟩
  · obtain ⟨before, token, after, middle, rfl, passed, refused⟩ :=
      foldlM_read_eq_error_iff.mp refused
    obtain ⟨matched, leaves⟩ := matched_and_leaves_of_foldlM passed
    cases found : token.bracket? with
    | none =>
        rw [Openings.read_of_plain found] at refused
        cases refused
    | some bracket =>
        cases bracket with
        | opening delimiter =>
            rw [Openings.read_of_opening found] at refused
            cases refused
        | closing delimiter =>
            cases middle with
            | nil =>
                rw [Openings.read_nil_of_closing found] at refused
                cases refused
                exact .unexpected matched leaves.balanced found
            | cons innermost outer =>
                obtain ⟨expected, start⟩ := innermost
                rw [Openings.read_cons_of_closing found] at refused
                split at refused
                next => cases refused
                next different =>
                  cases refused
                  obtain ⟨opener, leavesOpen, _⟩ := leaves.leavesOpen
                  exact .mismatched matched leavesOpen found different
  · obtain ⟨matched, leaves⟩ := matched_and_leaves_of_foldlM passed
    cases openings with
    | nil => cases unfinished
    | cons innermost outer =>
        obtain ⟨delimiter, start⟩ := innermost
        cases unfinished
        obtain ⟨opener, leavesOpen, rfl⟩ := leaves.leavesOpen
        exact .unclosed matched leavesOpen

/-- There is only one reason to refuse tokens. -/
theorem Refusal.check_eq (refusal : Refusal tokens failure) :
    Openings.check tokens = .error failure := by
  apply Answer.bind_eq_error_iff.mpr
  cases refusal with
  | unexpected matched balanced closes =>
      left
      apply foldlM_read_eq_error_iff.mpr
      exact ⟨_, _, _, [], rfl, foldlM_read_of_balanced balanced [],
        Openings.read_nil_of_closing closes⟩
  | mismatched matched leavesOpen closes different =>
      left
      apply foldlM_read_eq_error_iff.mpr
      obtain ⟨openings, passed⟩ := matched.exists_foldlM
      obtain ⟨outer, rfl⟩ := leavesOpen.openings_eq passed
      refine ⟨_, _, _, _, rfl, passed, ?_⟩
      rw [Openings.read_cons_of_closing closes, if_neg different]
  | unclosed matched leavesOpen =>
      right
      obtain ⟨openings, passed⟩ := matched.exists_foldlM
      obtain ⟨outer, rfl⟩ := leavesOpen.openings_eq passed
      exact ⟨_, passed, rfl⟩

/-- Tokens pass the check exactly if their brackets are balanced. -/
theorem check_eq_ok_iff : Openings.check tokens = .ok () ↔ Balanced (brackets tokens) := by
  constructor
  · intro passed
    obtain ⟨openings, passed, finished⟩ := Answer.bind_eq_ok_iff.mp passed
    obtain ⟨_, leaves⟩ := matched_and_leaves_of_foldlM passed
    cases openings with
    | nil => exact leaves.balanced
    | cons innermost outer => cases finished
  · intro balanced
    exact Answer.bind_eq_ok_iff.mpr ⟨[], foldlM_read_of_balanced balanced [], rfl⟩

theorem check_eq_error_iff : Openings.check tokens = .error failure ↔ Refusal tokens failure :=
  ⟨refusal_of_check, Refusal.check_eq⟩

end Token

namespace TokenTree

open Token (Refusal brackets)

variable
  {options : TreeOptions}
  {source : String}
  {tokens : List Token}
  {failure : ParseFailure}

/-- Leaving out white space and comments changes nothing about a refusal. -/
theorem nest_kept_eq_error_iff :
    nest (options.kept tokens) = .error failure ↔ Refusal tokens failure := by
  rw [← Token.check_eq_error_iff, ← Openings.check_kept options, ← Openings.nest_eq_error_iff]

section Segmentation

variable [Unicode.Segmentation]

theorem exists_parse_iff_of_tokens (tokenized : tokenize source = .ok tokens) :
    (∃ tree, parse options source = .ok tree) ↔ Balanced (brackets tokens) := by
  rw [← Token.check_eq_ok_iff, ← Openings.check_kept options, ← Openings.exists_nest_iff,
    parse_of_tokens tokenized]
  cases nest (options.kept tokens) <;> simp [Except.map]

theorem parse_eq_error_iff_of_tokens (tokenized : tokenize source = .ok tokens) :
    parse options source = .error failure ↔ Refusal tokens failure := by
  rw [parse_of_tokens tokenized, Answer.map_eq_error_iff, nest_kept_eq_error_iff]

/-- A source is accepted exactly if it is read as tokens whose brackets are balanced.  If
it is read as tokens and refused, the reason is the first closing bracket without a
partner or, if there is none, the innermost group left open. -/
theorem parse_accepts_balanced (options : TreeOptions) (source : String) :
    ((∃ tree, parse options source = .ok tree) ↔
      ∃ tokens, tokenize source = .ok tokens ∧ Balanced (brackets tokens)) ∧
      ∀ tokens failure, tokenize source = .ok tokens →
        (parse options source = .error failure ↔ Refusal tokens failure) := by
  refine ⟨?_, fun _ _ tokenized => parse_eq_error_iff_of_tokens tokenized⟩
  constructor
  · rintro ⟨tree, parsed⟩
    obtain ⟨tokens, tokenized, _⟩ := exists_tokens_of_parse parsed
    exact ⟨tokens, tokenized, (exists_parse_iff_of_tokens tokenized).mp ⟨tree, parsed⟩⟩
  · rintro ⟨tokens, tokenized, balanced⟩
    exact (exists_parse_iff_of_tokens tokenized).mpr balanced

end Segmentation

/-- A square bracket cannot close a round group. -/
theorem parse_refuses_mismatched :
    let source := "é\n(a]"
    let tokens : List Token :=
      [⟨.word, "é", ⟨0, 1, 1⟩⟩, ⟨.newline, "\n", ⟨2, 1, 2⟩⟩, ⟨.punct, "(", ⟨3, 2, 1⟩⟩,
       ⟨.word, "a", ⟨4, 2, 2⟩⟩, ⟨.punct, "]", ⟨5, 2, 3⟩⟩]
    let failure : ParseFailure := ⟨"mismatched `]`, expected `)`", some ⟨5, 2, 3⟩⟩
    tokenize source = .ok tokens ∧
      parse {} source = .error failure ∧
        Refusal tokens failure := by
  intro source tokens failure
  have tokenized : tokenize source = .ok tokens := by decide +kernel
  have refused : parse {} source = .error failure := (parse_of_tokens tokenized).trans rfl
  have refusal : Refusal tokens failure :=
    ((parse_accepts_balanced {} source).2 tokens failure tokenized).mp refused
  exact ⟨tokenized, refused, refusal⟩

end TokenTree
end Baseline
