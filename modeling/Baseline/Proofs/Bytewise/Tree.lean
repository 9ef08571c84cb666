import Baseline.Proofs.Bytewise.Joining
import Baseline.Proofs.Tree.Reading

/-!
# Trees by byte offsets

The tokens are nested while only the byte offsets of open brackets are kept.
The position of a node or of a failure is looked up in the table of lines when
it is needed.  Every offset that is looked up starts a token, so no lookup fails
(`parse_of_tokens`), and at default word boundaries the tree or the failure is
that of `TokenTree.parse` (`parse_eq`).
-/

namespace Baseline
namespace Bytewise

/-- A group whose closing bracket has not been read; children come last first. -/
structure OpenGroup where
  /-- The kind of its brackets. -/
  delimiter : Delimiter
  /-- The byte offset of its opening bracket. -/
  start : Nat
  /-- The nodes read so far. -/
  children : List Node

/-- The part of a tree that has been read; nodes come last first and groups innermost
first. -/
structure PartialTree where
  /-- The groups still open. -/
  groups : List OpenGroup
  /-- The finished nodes outside them. -/
  nodes : List Node

/-- The extent of a node between two byte offsets. -/
def span (lines : LineIndex) (source : String) (start stop : Nat) : Except Halt Span := do
  return ⟨← position lines source start, stop⟩

/-- A token as a leaf. -/
def leaf (lines : LineIndex) (source : String) (piece : Piece) : Except Halt Node := do
  return .leaf piece.kind piece.text (← span lines source piece.start piece.stop)

namespace PartialTree

/-- Add a finished node to the innermost open group. -/
def add (tree : PartialTree) (node : Node) : PartialTree :=
  match tree.groups with
  | [] => { tree with nodes := node :: tree.nodes }
  | inner :: outer =>
      { tree with groups := { inner with children := node :: inner.children } :: outer }

/-- Close the innermost group with a closing bracket. -/
def close
    (lines : LineIndex)
    (source : String)
    (tree : PartialTree)
    (piece : Piece)
    (delimiter : Delimiter) :
    Except Halt PartialTree := do
  let place ← position lines source piece.start
  match tree.groups with
  | [] => refuse (NestingError.unexpected piece.text).message place
  | inner :: outer =>
      if inner.delimiter = delimiter then
        let extent ← span lines source inner.start piece.stop
        return add { tree with groups := outer } (.group delimiter extent inner.children.reverse)
      else refuse (NestingError.mismatched piece.text inner.delimiter).message place

/-- Read one more token. -/
def push (lines : LineIndex) (source : String) (tree : PartialTree) (piece : Piece) :
    Except Halt PartialTree :=
  if piece.kind = .punct then
    match Delimiter.openedBy? piece.text, Delimiter.closedBy? piece.text with
    | some delimiter, _ =>
        .ok { tree with groups := ⟨delimiter, piece.start, []⟩ :: tree.groups }
    | none, some delimiter => close lines source tree piece delimiter
    | none, none => tree.add <$> leaf lines source piece
  else tree.add <$> leaf lines source piece

/-- The nodes of the whole source, once every group is closed. -/
def finish (lines : LineIndex) (source : String) (tree : PartialTree) :
    Except Halt (List Node) := do
  match tree.groups with
  | [] => return tree.nodes.reverse
  | inner :: _ =>
      refuse (NestingError.unclosed inner.delimiter).message (← position lines source inner.start)

end PartialTree

/-- Nest tokens by their brackets. -/
def nest (lines : LineIndex) (source : String) (pieces : List Piece) :
    Except Halt (List Node) := do
  let tree ← pieces.foldlM (PartialTree.push lines source) ⟨[], []⟩
  tree.finish lines source

/-- The token tree of a source text. -/
def parse
    [Unicode.Segmentation]
    (options : TreeOptions)
    (source : String) :
    Except Halt TokenTree := do
  let lines := LineIndex.ofText source
  let pieces ← tokenize lines source
  let children ← nest lines source (pieces.filter fun piece => options.keeps piece.kind)
  return ⟨← span lines source 0 source.utf8ByteSize, children⟩

/-! ## Positions that are looked up again -/

/-- The position belongs to its offset in the source. -/
def IsPosition (source : String) (place : Position) : Prop :=
  position (.ofText source) source place.offset = .ok place

variable
  {source : String}
  {tree : Baseline.PartialTree}
  {token : Token}
  {tokens : List Token}
  {place : Position}

theorem isPosition_of_append
    {before after : List Char}
    (source_eq : source.toList = before ++ after) :
    IsPosition source (.advance .origin before) := by
  rw [IsPosition, Position.offset_origin_advance]
  exact position_of_append source_eq

theorem span_eq (isPosition : IsPosition source place) (stop : Nat) :
    span (.ofText source) source place.offset stop = .ok ⟨place, stop⟩ := by
  rw [span, isPosition]
  rfl

theorem leaf_eq (isPosition : IsPosition source token.start) :
    leaf (.ofText source) source (.ofToken token) = .ok token.leaf := by
  rw [leaf, Piece.ofToken_start, span_eq isPosition]
  rfl

namespace PartialTree

/-- Keep only the byte offsets of open brackets. -/
def ofTree (tree : Baseline.PartialTree) : PartialTree where
  groups := tree.groups.map fun group => ⟨group.delimiter, group.start.offset, group.children⟩
  nodes := tree.nodes

theorem add_ofTree (tree : Baseline.PartialTree) (node : Node) :
    (ofTree tree).add node = ofTree (tree.add node) := by
  obtain ⟨groups, nodes⟩ := tree
  cases groups <;> rfl

/-- The positions of the open brackets belong to their offsets. -/
def IsPlaced (source : String) (tree : Baseline.PartialTree) : Prop :=
  ∀ group ∈ tree.groups, IsPosition source group.start

theorem IsPlaced.add (isPlaced : IsPlaced source tree) (node : Node) :
    IsPlaced source (tree.add node) := by
  obtain ⟨groups, nodes⟩ := tree
  cases groups with
  | nil => exact isPlaced
  | cons inner outer =>
      intro group member
      rcases List.mem_cons.mp member with rfl | member
      · exact isPlaced inner List.mem_cons_self
      · exact isPlaced group (List.mem_cons_of_mem _ member)

/-- The same tree by byte offsets, or the same refusal. -/
def reply (pushed : Except ParseFailure Baseline.PartialTree) : Except Halt PartialTree :=
  (pushed.map ofTree).mapError .refused

theorem close_eq
    {delimiter : Delimiter}
    (isPlaced : IsPlaced source tree)
    (isPosition : IsPosition source token.start) :
    close (.ofText source) source (ofTree tree) (.ofToken token) delimiter =
      reply (tree.close token delimiter) := by
  obtain ⟨groups, nodes⟩ := tree
  have place_eq : position (.ofText source) source token.start.offset = .ok token.start :=
    isPosition
  rw [close, Piece.ofToken_start, place_eq, Answer.ok_bind]
  cases groups with
  | nil => rfl
  | cons inner outer =>
      simp only [ofTree, List.map_cons, Baseline.PartialTree.close, Piece.ofToken_stop,
        Piece.ofToken_text]
      split
      next same =>
        rw [span_eq (isPlaced inner List.mem_cons_self), Answer.ok_bind]
        exact congrArg Except.ok (add_ofTree ⟨outer, nodes⟩ _)
      next different => rfl

theorem push_eq
    (isPlaced : IsPlaced source tree)
    (isPosition : IsPosition source token.start) :
    push (.ofText source) source (ofTree tree) (.ofToken token) = reply (tree.push token) := by
  have added : (ofTree tree).add <$> leaf (.ofText source) source (.ofToken token) =
      reply (.ok (tree.add token.leaf)) := by
    rw [leaf_eq isPosition]
    exact congrArg Except.ok (add_ofTree tree token.leaf)
  have kind_eq := Piece.ofToken_kind token
  unfold push Baseline.PartialTree.push
  by_cases punct : token.kind = .punct
  · rw [if_pos (kind_eq.trans punct), if_pos punct, Piece.ofToken_text]
    cases Delimiter.openedBy? token.text with
    | some delimiter => rfl
    | none =>
        cases Delimiter.closedBy? token.text with
        | some delimiter => exact close_eq isPlaced isPosition
        | none => exact added
  · rw [if_neg (kind_eq ▸ punct), if_neg punct]
    exact added

/-- Reading a token keeps the open brackets in their places. -/
theorem IsPlaced.push
    {after : Baseline.PartialTree}
    (isPlaced : IsPlaced source tree)
    (isPosition : IsPosition source token.start)
    (pushed : tree.push token = .ok after) :
    IsPlaced source after := by
  cases found : token.bracket? with
  | none =>
      rw [Baseline.PartialTree.push_of_plain found] at pushed
      cases pushed
      exact isPlaced.add token.leaf
  | some bracket =>
      cases bracket with
      | opening delimiter =>
          rw [Baseline.PartialTree.push_of_opening found] at pushed
          cases pushed
          exact List.forall_mem_cons.mpr ⟨isPosition, isPlaced⟩
      | closing delimiter =>
          rw [Baseline.PartialTree.push_of_closing found] at pushed
          obtain ⟨inner, outer, groups_eq, _, rfl⟩ :=
            Baseline.PartialTree.close_eq_ok_iff.mp pushed
          rw [IsPlaced, groups_eq, List.forall_mem_cons] at isPlaced
          have outerPlaced : IsPlaced source { tree with groups := outer } := isPlaced.2
          exact outerPlaced.add _

/-- All tokens are read in the same way. -/
theorem foldlM_push_eq
    (isPlaced : IsPlaced source tree)
    (arePositions : ∀ token ∈ tokens, IsPosition source token.start) :
    (tokens.map Piece.ofToken).foldlM (push (.ofText source) source) (ofTree tree) =
      reply (tokens.foldlM Baseline.PartialTree.push tree) ∧
      ∀ after, tokens.foldlM Baseline.PartialTree.push tree = .ok after →
        IsPlaced source after := by
  induction tokens generalizing tree with
  | nil => exact ⟨rfl, fun after passed => by cases passed; exact isPlaced⟩
  | cons token tokens inductionHypothesis =>
      rw [List.forall_mem_cons] at arePositions
      rw [List.map_cons, List.foldlM_cons, List.foldlM_cons, push_eq isPlaced arePositions.1]
      cases pushed : tree.push token with
      | error failure => exact ⟨rfl, fun after passed => by cases passed⟩
      | ok next => exact inductionHypothesis (isPlaced.push arePositions.1 pushed) arePositions.2

theorem finish_eq (isPlaced : IsPlaced source tree) :
    (ofTree tree).finish (.ofText source) source = tree.finish.mapError .refused := by
  obtain ⟨groups, nodes⟩ := tree
  cases groups with
  | nil => rfl
  | cons inner outer =>
      have place_eq : position (.ofText source) source inner.start.offset = .ok inner.start :=
        isPlaced inner List.mem_cons_self
      change (position _ _ inner.start.offset >>= _) = _
      rw [place_eq]
      rfl

end PartialTree

theorem nest_eq (arePositions : ∀ token ∈ tokens, IsPosition source token.start) :
    nest (.ofText source) source (tokens.map Piece.ofToken) =
      (Baseline.nest tokens).mapError .refused := by
  have nothingOpen : PartialTree.IsPlaced source .empty := fun group member => by cases member
  obtain ⟨pushed_eq, isPlaced⟩ := PartialTree.foldlM_push_eq nothingOpen arePositions
  unfold nest Baseline.nest
  change (List.foldlM _ (PartialTree.ofTree .empty) _ >>= _) = _
  rw [pushed_eq]
  cases passed : tokens.foldlM Baseline.PartialTree.push .empty with
  | error failure => rfl
  | ok tree => exact PartialTree.finish_eq (isPlaced tree passed)

/-- Tokens that tile the source are nested without a failing lookup. -/
theorem parse_of_tokens
    [Unicode.Segmentation]
    {options : TreeOptions}
    (read : tokenize (.ofText source) source = .ok (tokens.map Piece.ofToken))
    (tiles : Token.Tiles (fun _ _ => True) .origin source.toList tokens []) :
    parse options source =
      ((Baseline.nest (options.kept tokens)).map fun children =>
        ⟨⟨.origin, source.utf8ByteSize⟩, children⟩).mapError .refused := by
  have rootSpan : span (.ofText source) source 0 source.utf8ByteSize =
      .ok ⟨.origin, source.utf8ByteSize⟩ := by
    have isPosition := isPosition_of_append (List.nil_append source.toList).symm
    exact span_eq isPosition source.utf8ByteSize
  have kept_eq : (tokens.map Piece.ofToken).filter (fun piece => options.keeps piece.kind) =
      (options.kept tokens).map Piece.ofToken := by
    rw [List.filter_map]
    rfl
  have arePositions : ∀ token ∈ options.kept tokens, IsPosition source token.start := by
    intro token member
    obtain ⟨left, right, rfl⟩ := List.append_of_mem (List.mem_of_mem_filter member)
    have text_eq := tiles.text_eq
    rw [Token.textOf_append, List.append_assoc] at text_eq
    rw [tiles.of_middle.1]
    exact isPosition_of_append text_eq
  rw [parse, read, Answer.ok_bind, kept_eq, nest_eq arePositions]
  cases Baseline.nest (options.kept tokens) with
  | error failure => rfl
  | ok children =>
      change (span _ _ _ _ >>= _) = _
      rw [rootSpan]
      rfl

/-- What is no sequence of tokens is refused for that reason. -/
theorem parse_of_halt
    [Unicode.Segmentation]
    {options : TreeOptions}
    {halt : Halt}
    (halted : tokenize (.ofText source) source = .error halt) :
    parse options source = .error halt := by
  rw [parse, halted]
  rfl

/-- Nothing fails while a source is read by byte offsets, and the result is its tree or its
refusal. -/
theorem parse_eq (options : TreeOptions) (source : String) :
    parse options source = (TokenTree.parse options source).mapError .refused := by
  cases tokenized : Baseline.tokenize source with
  | error failure =>
      have refused : tokenize (.ofText source) source = .error (.refused failure) := by
        rw [tokenize_eq, tokenized]
        rfl
      rw [parse_of_halt refused, TokenTree.parse_of_failure tokenized]
      rfl
  | ok tokens =>
      rw [parse_of_tokens (tokenize_of_tokens tokenized) (Token.isLexical_true.tiles tokenized),
        TokenTree.parse_of_tokens tokenized]

end Bytewise
end Baseline
