import Baseline.Proofs.Token.Tiling
import Baseline.Proofs.Tree.Reading

/-!
# Walks in order

A walk through a tree emits something at each leaf and, for each group, at its
opening bracket, then within it, then at its closing bracket.  If it emits at
each of these places what a function of tokens gives for the token there, then
the walk through the tree of some tokens emits what the tokens give, in their
order (`Emission.Reads.walk_of_nest`).  The stack of open groups holds the part
of the walk that is already fixed.

A walk that emits the texts gives the kept tokens back, and the whole source if
all tokens are kept (`texts_of_parse`).
-/

namespace Baseline

/-- What a walk emits at the places of a tree. -/
structure Emission (α : Type) where
  /-- At a leaf. -/
  leaf : TokenKind → String → Span → List α
  /-- At the opening bracket of a group, which has a position. -/
  opening : Delimiter → Position → List α
  /-- At the closing bracket of a group, which ends at a byte offset. -/
  closing : Delimiter → Nat → List α

mutual

/-- What a walk through a node emits. -/
def Node.walk {α : Type} (emission : Emission α) : Node → List α
  | .leaf kind text span => emission.leaf kind text span
  | .group delimiter span children =>
      emission.opening delimiter span.start ++
        (Node.walkAll emission children ++ emission.closing delimiter span.stop)

/-- What a walk through nodes emits. -/
def Node.walkAll {α : Type} (emission : Emission α) : List Node → List α
  | [] => []
  | node :: rest => node.walk emission ++ Node.walkAll emission rest

end

/-- What is emitted at a place is what a function of tokens gives for the token
that stands there. -/
structure Emission.Reads {α : Type} (emission : Emission α) (give : Token → List α) : Prop where
  /-- At a leaf stands a token that is no bracket. -/
  leaf {token : Token} :
    token.bracket? = none →
      emission.leaf token.kind token.text ⟨token.start, token.stop⟩ = give token
  /-- A group starts where its opening bracket does. -/
  opening {token : Token} {delimiter : Delimiter} :
    token.bracket? = some (.opening delimiter) →
      emission.opening delimiter token.start = give token
  /-- A group stops where its closing bracket does. -/
  closing {token : Token} {delimiter : Delimiter} :
    token.bracket? = some (.closing delimiter) →
      emission.closing delimiter token.stop = give token

variable
  {α : Type}
  {emission : Emission α}
  {give : Token → List α}
  {tree after : PartialTree}
  {token : Token}
  {tokens : List Token}
  {nodes : List Node}

namespace Node

@[simp] theorem walkAll_nil : walkAll emission [] = [] := rfl

@[simp] theorem walkAll_cons (node : Node) (rest : List Node) :
    walkAll emission (node :: rest) = node.walk emission ++ walkAll emission rest := rfl

@[simp] theorem walkAll_append (left right : List Node) :
    walkAll emission (left ++ right) = walkAll emission left ++ walkAll emission right := by
  induction left with
  | nil => rfl
  | cons node rest inductionHypothesis => simp [inductionHypothesis]

end Node

/-! ## Partial trees -/

/-- What a walk emits at the opening bracket of an open group and within it. -/
def OpenGroup.walk (emission : Emission α) (group : OpenGroup) : List α :=
  emission.opening group.delimiter group.start ++ Node.walkAll emission group.children.reverse

/-- What a walk through a partial tree emits: first the finished nodes, then the
open groups from the outermost one inwards. -/
def PartialTree.walk (emission : Emission α) (tree : PartialTree) : List α :=
  Node.walkAll emission tree.nodes.reverse ++
    tree.groups.reverse.flatMap fun group => group.walk emission

namespace PartialTree

theorem walk_add (tree : PartialTree) (node : Node) :
    (tree.add node).walk emission = tree.walk emission ++ node.walk emission := by
  obtain ⟨groups, nodes⟩ := tree
  cases groups with
  | nil => simp [add, walk]
  | cons inner outer => simp [add, walk, OpenGroup.walk]

/-- An open group is walked after all that lies outside it. -/
theorem walk_cons (inner : OpenGroup) (outer : List OpenGroup) (nodes : List Node) :
    (⟨inner :: outer, nodes⟩ : PartialTree).walk emission =
      (⟨outer, nodes⟩ : PartialTree).walk emission ++ inner.walk emission := by
  simp [walk]

end PartialTree

namespace Emission.Reads

/-- A token that is read adds what it gives. -/
theorem walk_of_push
    (reads : emission.Reads give)
    (pushed : tree.push token = .ok after) :
    after.walk emission = tree.walk emission ++ give token := by
  cases found : token.bracket? with
  | none =>
      rw [PartialTree.push_of_plain found, Except.ok.injEq] at pushed
      rw [← pushed, PartialTree.walk_add, Token.leaf, Node.walk, reads.leaf found]
  | some bracket =>
      cases bracket with
      | opening delimiter =>
          rw [PartialTree.push_of_opening found, Except.ok.injEq] at pushed
          rw [← pushed, PartialTree.walk_cons, OpenGroup.walk, reads.opening found]
          simp
      | closing delimiter =>
          rw [PartialTree.push_of_closing found] at pushed
          obtain ⟨inner, outer, groups_eq, rfl, rfl⟩ := PartialTree.close_eq_ok_iff.mp pushed
          obtain ⟨groups, nodes⟩ := tree
          subst groups_eq
          -- The group is walked where it stood open: only its closing bracket is new.
          rw [PartialTree.walk_add, PartialTree.walk_cons, OpenGroup.walk, Node.walk,
            reads.closing found]
          simp only [List.append_assoc]

/-- Tokens that are read add what they give, in their order. -/
theorem walk_of_foldlM
    (reads : emission.Reads give)
    (pushed : tokens.foldlM PartialTree.push tree = .ok after) :
    after.walk emission = tree.walk emission ++ tokens.flatMap give := by
  induction tokens generalizing tree with
  | nil =>
      cases pushed
      simp
  | cons token rest inductionHypothesis =>
      rw [List.foldlM_cons] at pushed
      obtain ⟨next, first, later⟩ := Answer.bind_eq_ok_iff.mp pushed
      rw [inductionHypothesis later, reads.walk_of_push first, List.flatMap_cons, List.append_assoc]

/-- A walk through the nodes that tokens are nested to emits what the tokens give. -/
theorem walk_of_nest
    (reads : emission.Reads give)
    (nested : nest tokens = .ok nodes) :
    Node.walkAll emission nodes = tokens.flatMap give := by
  obtain ⟨tree, pushed, finished⟩ := Answer.bind_eq_ok_iff.mp nested
  have walked := reads.walk_of_foldlM pushed
  obtain ⟨groups, finishedNodes⟩ := tree
  cases groups with
  | nil =>
      cases finished
      simpa [PartialTree.walk, PartialTree.empty] using walked
  | cons inner outer => cases finished

end Emission.Reads

/-! ## Texts -/

/-- A walk that emits the texts of the leaves and the brackets of the groups. -/
def Emission.texts : Emission String where
  leaf _ text _ := [text]
  opening delimiter _ := [String.singleton delimiter.opener]
  closing delimiter _ := [String.singleton delimiter.closer]

theorem Emission.texts_reads : Emission.texts.Reads fun token => [token.text] where
  leaf _ := rfl
  opening opens := by rw [(Token.bracket?_eq_some_iff.mp opens).2]; rfl
  closing closes := by rw [(Token.bracket?_eq_some_iff.mp closes).2]; rfl

namespace TokenTree

variable {options : TreeOptions} {source : String} {tree : TokenTree}

/-- The texts of the leaves and the brackets of the groups, in order. -/
def texts (tree : TokenTree) : List String :=
  Node.walkAll .texts tree.children

section Segmentation

variable [Unicode.Segmentation]

/-- A tree that keeps everything holds its source. -/
theorem join_texts_of_parse
    (whitespaceKept : options.keepWhitespace)
    (commentsKept : options.keepComments)
    (parsed : parse options source = .ok tree) :
    String.join tree.texts = source := by
  obtain ⟨tokens, tokenized, nested⟩ := exists_tokens_of_parse parsed
  rw [TreeOptions.kept_eq_self whitespaceKept commentsKept] at nested
  rw [texts, Emission.texts_reads.walk_of_nest nested, ← List.map_eq_flatMap]
  exact (Token.isLexical_true.tiles tokenized).isTiling.join_eq

/-- A tree holds the texts of the kept tokens in their order, and a tree that keeps all
of them holds the whole source. -/
theorem texts_of_parse (parsed : parse options source = .ok tree) :
    (∃ tokens, tokenize source = .ok tokens ∧
      tree.texts = (options.kept tokens).map Token.text) ∧
      (options.keepWhitespace → options.keepComments → String.join tree.texts = source) := by
  obtain ⟨tokens, tokenized, nested⟩ := exists_tokens_of_parse parsed
  have texts_eq : tree.texts = (options.kept tokens).map Token.text := by
    rw [texts, Emission.texts_reads.walk_of_nest nested, List.map_eq_flatMap]
  refine ⟨⟨tokens, tokenized, texts_eq⟩, ?_⟩
  intro whitespaceKept commentsKept
  exact join_texts_of_parse whitespaceKept commentsKept parsed

end Segmentation

/-- A tree that keeps everything holds a call with a string, blanks and a comment. -/
theorem texts_of_parse_call :
    let options : TreeOptions := { keepWhitespace := true }
    let source := "f(x, \"(\")//é"
    ∃ tree, TokenTree.parse options source = .ok tree ∧
      tree.texts = ["f", "(", "x", ",", " ", "\"(\"", ")", "//é"] ∧
        String.join tree.texts = source := by
  intro options source
  have tokenized : tokenize source = .ok
      [⟨.word, "f", ⟨0, 1, 1⟩⟩, ⟨.punct, "(", ⟨1, 1, 2⟩⟩, ⟨.word, "x", ⟨2, 1, 3⟩⟩,
       ⟨.punct, ",", ⟨3, 1, 4⟩⟩, ⟨.whitespace, " ", ⟨4, 1, 5⟩⟩, ⟨.string, "\"(\"", ⟨5, 1, 6⟩⟩,
       ⟨.punct, ")", ⟨8, 1, 9⟩⟩, ⟨.comment, "//é", ⟨9, 1, 10⟩⟩] := by
    decide +kernel
  have parsed : parse options source = _ := parse_of_tokens tokenized
  refine ⟨_, parsed, ?_, (texts_of_parse parsed).2 rfl rfl⟩
  rfl

end TokenTree
end Baseline
