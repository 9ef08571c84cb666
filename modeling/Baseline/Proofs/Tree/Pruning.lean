import Baseline.Proofs.Tree.Reading

/-!
# Pruned trees

Blanks and comments are left out token by token, before a source is nested.  The tree without
them is still the whole tree with their leaves taken away at every depth, and a source is
refused in the same way under all options (`parse_eq_pruned`).  The partial trees carry this
over: the one of the kept tokens is at all times the pruned one of all tokens, because a token
that is left out is no bracket and becomes a leaf that is pruned.
-/

namespace Baseline

namespace TreeOptions

/-- Nothing is left out. -/
def everything : TreeOptions where
  keepWhitespace := true
  keepComments := true

/-- Leaves of this kind are left out. -/
def Drops (options : TreeOptions) (kind : TokenKind) : Prop :=
  (kind = .whitespace ∧ options.keepWhitespace = false) ∨
    (kind = .comment ∧ options.keepComments = false)

instance (options : TreeOptions) (kind : TokenKind) : Decidable (options.Drops kind) :=
  inferInstanceAs (Decidable (_ ∨ _))

variable {options : TreeOptions} {token : Token}

theorem keeps_eq_false_iff {kind : TokenKind} :
    options.keeps kind = false ↔ options.Drops kind := by
  cases kind <;> simp [keeps, Drops]

theorem kept_cons_of_kept (kept : options.keeps token.kind = true) (tokens : List Token) :
    options.kept (token :: tokens) = token :: options.kept tokens :=
  List.filter_cons_of_pos kept

theorem kept_cons_of_dropped (dropped : options.keeps token.kind = false) (tokens : List Token) :
    options.kept (token :: tokens) = options.kept tokens :=
  List.filter_cons_of_neg (Bool.not_eq_true _ ▸ dropped)

end TreeOptions

mutual

/-- A node without the leaves below it that are left out, unless it is one of them itself. -/
def Node.pruned? (options : TreeOptions) : Node → Option Node
  | .leaf kind text span => if options.Drops kind then none else some (.leaf kind text span)
  | .group delimiter span children =>
      some (.group delimiter span (Node.prunedAll options children))

/-- Nodes without the leaves among and below them that are left out. -/
def Node.prunedAll (options : TreeOptions) : List Node → List Node
  | [] => []
  | node :: rest => (node.pruned? options).toList ++ Node.prunedAll options rest

end

/-- A tree without the leaves at any depth that are left out. -/
def TokenTree.pruned (options : TreeOptions) (tree : TokenTree) : TokenTree :=
  { tree with children := Node.prunedAll options tree.children }

variable
  {options : TreeOptions}
  {node other : Node}
  {token : Token}

namespace Node

theorem prunedAll_cons_of_some
    (left : node.pruned? options = some other)
    (nodes : List Node) :
    prunedAll options (node :: nodes) = other :: prunedAll options nodes := by
  rw [prunedAll, left]
  rfl

theorem prunedAll_cons_of_none (nothing : node.pruned? options = none) (nodes : List Node) :
    prunedAll options (node :: nodes) = prunedAll options nodes := by
  rw [prunedAll, nothing]
  rfl

theorem prunedAll_eq_filterMap (options : TreeOptions) (nodes : List Node) :
    prunedAll options nodes = nodes.filterMap (pruned? options) := by
  induction nodes with
  | nil => rfl
  | cons node rest inductionHypothesis =>
      cases left : node.pruned? options with
      | none => rw [prunedAll_cons_of_none left, List.filterMap_cons_none left, inductionHypothesis]
      | some other =>
          rw [prunedAll_cons_of_some left, List.filterMap_cons_some left, inductionHypothesis]

/-- Nodes that are collected last first are pruned in the same way. -/
theorem prunedAll_reverse (options : TreeOptions) (nodes : List Node) :
    prunedAll options nodes.reverse = (prunedAll options nodes).reverse := by
  rw [prunedAll_eq_filterMap, prunedAll_eq_filterMap, List.filterMap_reverse]

theorem pruned?_leaf_of_kept (kept : options.keeps token.kind = true) :
    token.leaf.pruned? options = some token.leaf := by
  have stays : ¬options.Drops token.kind := by
    rw [← TreeOptions.keeps_eq_false_iff, kept]
    exact Bool.noConfusion
  exact if_neg stays

theorem pruned?_leaf_of_dropped (dropped : options.keeps token.kind = false) :
    token.leaf.pruned? options = none :=
  if_pos (TreeOptions.keeps_eq_false_iff.mp dropped)

end Node

/-! ## Partial trees -/

/-- An open group without the leaves below it that are left out. -/
def OpenGroup.pruned (options : TreeOptions) (group : OpenGroup) : OpenGroup :=
  { group with children := Node.prunedAll options group.children }

namespace PartialTree

/-- A partial tree without the leaves at any depth that are left out. -/
def pruned (options : TreeOptions) (tree : PartialTree) : PartialTree where
  groups := tree.groups.map (OpenGroup.pruned options)
  nodes := Node.prunedAll options tree.nodes

theorem pruned_add_of_some (left : node.pruned? options = some other) (tree : PartialTree) :
    (tree.add node).pruned options = (tree.pruned options).add other := by
  obtain ⟨groups, nodes⟩ := tree
  cases groups with
  | nil => simp [add, pruned, Node.prunedAll_cons_of_some left]
  | cons inner outer => simp [add, pruned, OpenGroup.pruned, Node.prunedAll_cons_of_some left]

theorem pruned_add_of_none (nothing : node.pruned? options = none) (tree : PartialTree) :
    (tree.add node).pruned options = tree.pruned options := by
  obtain ⟨groups, nodes⟩ := tree
  cases groups with
  | nil => simp [add, pruned, Node.prunedAll_cons_of_none nothing]
  | cons inner outer => simp [add, pruned, OpenGroup.pruned, Node.prunedAll_cons_of_none nothing]

theorem close_cons
    (inner : OpenGroup)
    (outer : List OpenGroup)
    (nodes : List Node)
    (token : Token)
    (delimiter : Delimiter) :
    (⟨inner :: outer, nodes⟩ : PartialTree).close token delimiter =
      if inner.delimiter = delimiter then
        .ok (add ⟨outer, nodes⟩
          (.group delimiter ⟨inner.start, token.stop⟩ inner.children.reverse))
      else
        .error ((NestingError.mismatched token.text inner.delimiter).failureAt token.start) := rfl

/-- The group that a closing bracket finishes is pruned like the open one. -/
theorem map_pruned_close
    (options : TreeOptions)
    (tree : PartialTree)
    (token : Token)
    (delimiter : Delimiter) :
    (tree.close token delimiter).map (pruned options) =
      (tree.pruned options).close token delimiter := by
  obtain ⟨groups, nodes⟩ := tree
  cases groups with
  | nil => rfl
  | cons inner outer =>
      refine Eq.trans ?_ (close_cons (inner.pruned options) _ _ token delimiter).symm
      rw [close_cons, OpenGroup.pruned]
      by_cases same : inner.delimiter = delimiter
      · have left : (Node.group delimiter ⟨inner.start, token.stop⟩ inner.children.reverse).pruned?
            options = some (.group delimiter ⟨inner.start, token.stop⟩
              (Node.prunedAll options inner.children).reverse) := by
          rw [Node.pruned?, Node.prunedAll_reverse]
        rw [if_pos same, if_pos same, Except.map, pruned_add_of_some left]
        rfl
      · rw [if_neg same, if_neg same, Except.map]

/-- A token that is kept is read into the pruned partial tree in the same way. -/
theorem map_pruned_push_of_kept
    (kept : options.keeps token.kind = true)
    (tree : PartialTree) :
    (tree.push token).map (pruned options) = (tree.pruned options).push token := by
  cases found : token.bracket? with
  | none =>
      rw [push_of_plain found, push_of_plain found, Except.map,
        pruned_add_of_some (Node.pruned?_leaf_of_kept kept)]
  | some bracket =>
      cases bracket with
      | opening delimiter =>
          rw [push_of_opening found, push_of_opening found]
          rfl
      | closing delimiter =>
          rw [push_of_closing found, push_of_closing found, map_pruned_close]

/-- A token that is left out leaves no trace in the pruned partial tree. -/
theorem map_pruned_push_of_dropped
    (dropped : options.keeps token.kind = false)
    (tree : PartialTree) :
    (tree.push token).map (pruned options) = .ok (tree.pruned options) := by
  rw [push_of_plain (TreeOptions.bracket?_of_dropped dropped), Except.map,
    pruned_add_of_none (Node.pruned?_leaf_of_dropped dropped)]

theorem map_pruned_foldlM
    (options : TreeOptions)
    (tokens : List Token)
    (tree : PartialTree) :
    (tokens.foldlM push tree).map (pruned options) =
      (options.kept tokens).foldlM push (tree.pruned options) := by
  induction tokens generalizing tree with
  | nil => rfl
  | cons token rest inductionHypothesis =>
      rw [List.foldlM_cons]
      cases kept : options.keeps token.kind with
      | true =>
          rw [TreeOptions.kept_cons_of_kept kept, List.foldlM_cons, ← map_pruned_push_of_kept kept]
          cases tree.push token with
          | error failure => rfl
          | ok next => exact inductionHypothesis next
      | false =>
          rw [TreeOptions.kept_cons_of_dropped kept]
          obtain ⟨next, pushed, pruned_eq⟩ :=
            Answer.map_eq_ok_iff.mp (map_pruned_push_of_dropped kept tree)
          rw [pushed, ← pruned_eq]
          exact inductionHypothesis next

theorem finish_pruned (options : TreeOptions) (tree : PartialTree) :
    (tree.pruned options).finish = tree.finish.map (Node.prunedAll options) := by
  obtain ⟨groups, nodes⟩ := tree
  cases groups with
  | nil => simp [finish, pruned, Except.map, Node.prunedAll_reverse]
  | cons inner outer => rfl

end PartialTree

/-- Leaving tokens out before they are nested prunes the nodes that they are nested to. -/
theorem nest_kept (options : TreeOptions) (tokens : List Token) :
    nest (options.kept tokens) = (nest tokens).map (Node.prunedAll options) := by
  have pushed := PartialTree.map_pruned_foldlM options tokens .empty
  rw [nest, nest]
  change (options.kept tokens).foldlM PartialTree.push (PartialTree.empty.pruned options) >>=
    PartialTree.finish = _
  rw [← pushed]
  cases tokens.foldlM PartialTree.push .empty with
  | error failure => rfl
  | ok tree => exact tree.finish_pruned options

/-- The whole tree of a source determines its tree under all options: the leaves that are left
out are taken away at every depth, and nothing else is changed.  A source that is refused is
refused for the same reason at the same position. -/
theorem TokenTree.parse_eq_pruned
    [Unicode.Segmentation]
    (options : TreeOptions)
    (source : String) :
    parse options source = (parse .everything source).map (pruned options) := by
  cases tokenized : tokenize source with
  | error failure => rw [parse_of_failure tokenized, parse_of_failure tokenized, Except.map]
  | ok tokens =>
      rw [parse_of_tokens tokenized, parse_of_tokens tokenized, nest_kept,
        TreeOptions.kept_eq_self rfl rfl]
      cases nest tokens <;> rfl

end Baseline
