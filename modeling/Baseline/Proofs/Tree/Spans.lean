import Baseline.Proofs.Text.LineIndex
import Baseline.Proofs.Tree.Walk
import Mathlib.Order.Defs.Unbundled

/-!
# Spans nest

The children of a node lie between its brackets, one after the other, and each
of them covers the part of the source that it stands for (`spans_nest`).  If a
tree keeps everything, nothing lies between the children.

The walk through a tree meets marks: the leaves and the brackets with the places
where they stand.  They are those of the tokens, so they run through the source
without an overlap (`Mark.Run`).  A run can be cut where a group starts and
stops, which carries it from the root down to the children of every group
(`TokenTree.Encloses.run`).
-/

namespace Baseline

open Text (IsBoundary slice?)

/-- The extent of a node. -/
def Node.span : Node → Span
  | .leaf _ _ span => span
  | .group _ span _ => span

/-- What is written where a node stands: the text of a leaf; the brackets of a group
around something. -/
def Node.IsWritten (written : String) : Node → Prop
  | .leaf _ text _ => written = text
  | .group delimiter _ _ =>
      ∃ inside, written =
        String.singleton delimiter.opener ++ inside ++ String.singleton delimiter.closer

/-- The node covers the part of the source that it stands for. -/
structure Node.IsPlaced (source : String) (node : Node) : Prop where
  /-- It is not empty. -/
  start_lt_stop : node.span.start.offset < node.span.stop
  /-- A character starts where it starts. -/
  startBoundary : IsBoundary source node.span.start.offset
  /-- A character starts or the source ends where it stops. -/
  stopBoundary : IsBoundary source node.span.stop
  /-- Its line and column are those of the byte offset where it starts. -/
  located : (LineIndex.ofText source).position? source node.span.start.offset =
    some node.span.start
  /-- It is written in the part of the source that it covers. -/
  written : ∃ written,
    slice? source node.span.start.offset node.span.stop = some written ∧ node.IsWritten written

/-- Each of the nodes starts as `Follows` allows after the one before it stops; the first
one so after an offset, and another offset so after the last one. -/
def Node.Chained (Follows : Nat → Nat → Prop) (start stop : Nat) : List Node → Prop
  | [] => Follows start stop
  | node :: rest =>
      Follows start node.span.start.offset ∧ Node.Chained Follows node.span.stop stop rest

/-- The nodes are placed between two offsets of the source, one after the other. -/
structure Node.ArePlaced (source : String) (start stop : Nat) (nodes : List Node) : Prop where
  /-- Each covers the part of the source that it stands for. -/
  placed : ∀ node ∈ nodes, node.IsPlaced source
  /-- Each lies between the two offsets. -/
  inside : ∀ node ∈ nodes, start ≤ node.span.start.offset ∧ node.span.stop ≤ stop
  /-- Each stops before the later ones start. -/
  ordered : nodes.Pairwise fun earlier later => earlier.span.stop ≤ later.span.start.offset

/-- The nodes are the children of the root or of a group.  The offsets are those of the
whole source, or those just after the opening and just before the closing bracket. -/
inductive TokenTree.Encloses (tree : TokenTree) : Nat → Nat → List Node → Prop
  /-- The children of the root. -/
  | root : tree.Encloses tree.span.start.offset tree.span.stop tree.children
  /-- The children of a group that is a child itself. -/
  | group {start stop nodes delimiter span children}
      (encloses : tree.Encloses start stop nodes)
      (member : .group delimiter span children ∈ nodes) :
      tree.Encloses (span.start.offset + 1) (span.stop - 1) children

/-! ## Marks -/

/-- A leaf or a bracket in the source. -/
structure Mark where
  /-- The byte offset where it starts. -/
  start : Nat
  /-- The byte offset just after it. -/
  stop : Nat
  /-- Its text. -/
  text : String
  /-- The position that a tree records for its start, if it records one. -/
  position? : Option Position

namespace Mark

/-- The mark stands in the source where it says. -/
structure IsAt (source : String) (mark : Mark) : Prop where
  start_lt_stop : mark.start < mark.stop
  slice_eq : slice? source mark.start mark.stop = some mark.text
  located : ∀ position ∈ mark.position?,
    (LineIndex.ofText source).position? source mark.start = some position

/-- The marks stand in the source, and each follows the one before it. -/
inductive Run (Follows : Nat → Nat → Prop) (source : String) : Nat → Nat → List Mark → Prop
  /-- No mark. -/
  | nil {start stop} (follows : Follows start stop) : Run Follows source start stop []
  /-- One more mark in front. -/
  | cons {start stop mark rest}
      (follows : Follows start mark.start)
      (isAt : mark.IsAt source)
      (later : Run Follows source mark.stop stop rest) :
      Run Follows source start stop (mark :: rest)

end Mark

/-- A walk that meets marks.  Of a closing bracket a tree records only where it stops. -/
def Emission.marks : Emission Mark where
  leaf _ text span := [⟨span.start.offset, span.stop, text, some span.start⟩]
  opening delimiter start :=
    [⟨start.offset, start.offset + 1, String.singleton delimiter.opener, some start⟩]
  closing delimiter stop := [⟨stop - 1, stop, String.singleton delimiter.closer, none⟩]

/-- The mark that a token leaves. -/
def Token.mark (token : Token) : Mark where
  start := token.start.offset
  stop := token.stop
  text := token.text
  position? :=
    match token.bracket? with
    | some (.closing _) => none
    | _ => some token.start

theorem Emission.marks_reads : Emission.marks.Reads fun token => [token.mark] where
  leaf plain := by
    simp only [Emission.marks, Token.mark, plain]
  opening opens := by
    simp only [Emission.marks, Token.mark, opens, Token.stop_of_bracket? opens,
      (Token.bracket?_eq_some_iff.mp opens).2, Bracket.char]
  closing closes := by
    simp only [Emission.marks, Token.mark, closes, Token.stop_of_bracket? closes,
      (Token.bracket?_eq_some_iff.mp closes).2, Bracket.char, Nat.add_sub_cancel]

variable
  {Follows : Nat → Nat → Prop}
  {source : String}
  {start stop middle : Nat}
  {left right marks rest : List Mark}
  {nodes children : List Node}
  {delimiter : Delimiter}
  {span : Span}

namespace Mark.Run

theorem le (run : Run (· ≤ ·) source start stop marks) : start ≤ stop := by
  induction run with
  | nil follows => exact follows
  | cons follows isAt _ inductionHypothesis =>
      have := isAt.start_lt_stop
      omega

/-- A run without gaps is a run. -/
theorem weaken (run : Run (· = ·) source start stop marks) :
    Run (· ≤ ·) source start stop marks := by
  induction run with
  | nil follows => exact .nil follows.le
  | cons follows isAt _ inductionHypothesis => exact .cons follows.le isAt inductionHypothesis

/-- A run may start later than an offset. -/
theorem of_le
    (run : Run (· ≤ ·) source middle stop marks)
    (earlier : start ≤ middle) :
    Run (· ≤ ·) source start stop marks := by
  cases run with
  | nil follows => exact .nil (earlier.trans follows)
  | cons follows isAt later => exact .cons (earlier.trans follows) isAt later

/-- Marks may be left out of a run. -/
theorem sublist
    (run : Run (· ≤ ·) source start stop marks)
    (fewer : left.Sublist marks) :
    Run (· ≤ ·) source start stop left := by
  induction run generalizing left with
  | nil follows => exact List.sublist_nil.mp fewer ▸ .nil follows
  | cons follows isAt _ inductionHypothesis =>
      cases fewer with
      | cons _ fewer =>
          exact (inductionHypothesis fewer).of_le (follows.trans isAt.start_lt_stop.le)
      | cons_cons _ fewer => exact .cons follows isAt (inductionHypothesis fewer)

variable [IsPreorder Nat Follows]

/-- A run may go on to a later offset. -/
theorem extend
    (run : Run Follows source start middle marks)
    (follows : Follows middle stop) :
    Run Follows source start stop marks := by
  induction run with
  | nil before => exact .nil (IsTrans.trans _ _ _ before follows)
  | cons before isAt _ inductionHypothesis =>
      exact .cons before isAt (inductionHypothesis follows)

/-- A run can be cut in two. -/
theorem exists_middle (run : Run Follows source start stop (left ++ right)) :
    ∃ middle, Run Follows source start middle left ∧ Run Follows source middle stop right := by
  induction left generalizing start with
  | nil => exact ⟨start, .nil (refl start), run⟩
  | cons mark left inductionHypothesis =>
      cases run with
      | cons follows isAt later =>
          obtain ⟨middle, leftRun, rightRun⟩ := inductionHypothesis later
          exact ⟨middle, .cons follows isAt leftRun, rightRun⟩

/-- A run through a group passes its opening bracket, its children and its closing
bracket. -/
theorem of_group
    (run : Run Follows source start stop
      ((Node.group delimiter span children).walk .marks ++ rest)) :
    Follows start span.start.offset ∧
      IsAt source ⟨span.start.offset, span.start.offset + 1,
        String.singleton delimiter.opener, some span.start⟩ ∧
      Run Follows source (span.start.offset + 1) (span.stop - 1) (Node.walkAll .marks children) ∧
      IsAt source ⟨span.stop - 1, span.stop, String.singleton delimiter.closer, none⟩ ∧
      Run Follows source span.stop stop rest := by
  rw [Node.walk, List.append_assoc, List.append_assoc] at run
  change Run Follows source start stop (_ :: (Node.walkAll .marks children ++ (_ :: rest))) at run
  cases run with
  | cons follows openerAt inner =>
      obtain ⟨middle, childrenRun, ending⟩ := inner.exists_middle
      cases ending with
      | cons closerFollows closerAt later =>
          exact ⟨follows, openerAt, childrenRun.extend closerFollows, closerAt, later⟩

/-- A run through a node passes the extent of the node. -/
theorem of_node
    {node : Node}
    (run : Run Follows source start stop (node.walk .marks ++ rest)) :
    Follows start node.span.start.offset ∧ Run Follows source node.span.stop stop rest := by
  cases node with
  | leaf kind text span =>
      cases run with
      | cons follows _ later => exact ⟨follows, later⟩
  | group delimiter span children =>
      obtain ⟨follows, _, _, _, later⟩ := run.of_group
      exact ⟨follows, later⟩

/-- The nodes that a run passes are chained. -/
theorem chained (run : Run Follows source start stop (Node.walkAll .marks nodes)) :
    Node.Chained Follows start stop nodes := by
  induction nodes generalizing start with
  | nil =>
      cases run with
      | nil follows => exact follows
  | cons node rest inductionHypothesis =>
      obtain ⟨follows, later⟩ := run.of_node
      exact ⟨follows, inductionHypothesis later⟩

end Mark.Run

/-! ## Nodes -/

/-- A node that a run passes covers the part of the source that it stands for. -/
theorem Mark.Run.isPlaced
    {node : Node}
    (run : Run (· ≤ ·) source start stop (node.walk .marks ++ rest)) :
    node.IsPlaced source := by
  cases node with
  | leaf kind text span =>
      cases run with
      | cons _ isAt _ =>
          obtain ⟨_, startBoundary, stopBoundary⟩ := Text.isBoundary_of_slice? isAt.slice_eq
          exact ⟨isAt.start_lt_stop, startBoundary, stopBoundary, isAt.located _ rfl,
            text, isAt.slice_eq, rfl⟩
  | group delimiter span children =>
      obtain ⟨_, openerAt, childrenRun, closerAt, _⟩ := run.of_group
      have ordered := childrenRun.le
      obtain ⟨_, startBoundary, insideBoundary⟩ := Text.isBoundary_of_slice? openerAt.slice_eq
      obtain ⟨_, endBoundary, stopBoundary⟩ := Text.isBoundary_of_slice? closerAt.slice_eq
      obtain ⟨inside, insideSliced⟩ := Text.exists_slice? ordered insideBoundary endBoundary
      refine ⟨?_, startBoundary, stopBoundary, openerAt.located _ rfl, _,
        Text.slice?_append (Text.slice?_append openerAt.slice_eq insideSliced) closerAt.slice_eq,
        inside, rfl⟩
      simp only [Node.span]
      omega

/-- Nodes that a run passes are placed. -/
theorem Mark.Run.isPlaced_of_mem
    {node : Node}
    (run : Run (· ≤ ·) source start stop (Node.walkAll .marks nodes))
    (member : node ∈ nodes) :
    node.IsPlaced source := by
  obtain ⟨before, after, rfl⟩ := List.append_of_mem member
  rw [Node.walkAll_append] at run
  obtain ⟨_, _, rest⟩ := run.exists_middle
  exact rest.isPlaced

namespace Node.Chained

theorem start_le_stop
    (chained : Chained (· ≤ ·) start stop nodes)
    (placed : ∀ node ∈ nodes, node.IsPlaced source) :
    start ≤ stop := by
  induction nodes generalizing start with
  | nil => exact chained
  | cons node rest inductionHypothesis =>
      rw [List.forall_mem_cons] at placed
      have := placed.1.start_lt_stop
      have := chained.1
      have := inductionHypothesis chained.2 placed.2
      omega

/-- Chained nodes that cover something lie one after the other. -/
theorem arePlaced
    (chained : Chained (· ≤ ·) start stop nodes)
    (placed : ∀ node ∈ nodes, node.IsPlaced source) :
    ArePlaced source start stop nodes := by
  induction nodes generalizing start with
  | nil => exact ⟨by simp, by simp, .nil⟩
  | cons node rest inductionHypothesis =>
      obtain ⟨follows, later⟩ := chained
      rw [List.forall_mem_cons] at placed
      obtain ⟨restPlaced, inside, ordered⟩ := inductionHypothesis later placed.2
      have start_lt_stop := placed.1.start_lt_stop
      refine ⟨List.forall_mem_cons.mpr placed, List.forall_mem_cons.mpr ⟨?_, ?_⟩,
        .cons (fun other member => (inside other member).1) ordered⟩
      · exact ⟨follows, later.start_le_stop placed.2⟩
      · intro other member
        have := inside other member
        omega

end Node.Chained

/-! ## Trees -/

/-- A token leaves a mark where it stands. -/
theorem Token.mark_isAt
    {token : Token}
    {before after : List Char}
    (text_ne : token.text ≠ "")
    (source_eq : source.toList = before ++ (token.text.toList ++ after))
    (start_eq : token.start = Position.origin.advance before) :
    token.mark.IsAt source := by
  have offset_eq : token.start.offset = String.utf8Len before := by
    rw [start_eq, Position.offset_origin_advance]
  have stop_eq : token.stop = String.utf8Len before + String.utf8Len token.text.toList := by
    rw [stop, offset_eq, String.utf8Len_toList]
  refine ⟨?_, ?_, fun position recorded => ?_⟩
  · have size_ne : token.text.utf8ByteSize ≠ 0 := mt String.utf8ByteSize_eq_zero_iff.mp text_ne
    simp only [mark, stop]
    omega
  · have sliced := Text.slice?_of_append source_eq
    rwa [String.ofList_toList, ← stop_eq, ← offset_eq] at sliced
  · have position_eq : position = token.start := by
      simp only [mark] at recorded
      split at recorded
      next => cases recorded
      next => exact (Option.some.inj recorded).symm
    rw [position_eq, start_eq]
    simp only [mark, offset_eq]
    exact LineIndex.position?_of_append source_eq

/-- The marks of tokens that tile a text run through it without a gap. -/
theorem Token.Tiles.run
    {Fits : Token → List Char → Prop}
    {position : Position}
    {before text after : List Char}
    {tokens : List Token}
    (tiles : Tiles Fits position text tokens after)
    (source_eq : source.toList = before ++ text)
    (position_eq : position = Position.origin.advance before) :
    Mark.Run (· = ·) source position.offset (position.advance (textOf tokens)).offset
      (tokens.map mark) := by
  induction tiles generalizing before with
  | nil => exact .nil rfl
  | @cons position text token rest tokens after start_eq text_ne text_eq _ _ inductionHypothesis =>
      subst text_eq start_eq
      have isAt : token.mark.IsAt source := mark_isAt text_ne source_eq position_eq
      have rest_eq : source.toList = (before ++ token.text.toList) ++ rest := by
        rw [source_eq, List.append_assoc]
      have later := inductionHypothesis rest_eq (by rw [position_eq, Position.advance_append])
      rw [← stop_eq] at later
      rw [textOf_cons, Position.advance_append]
      exact .cons rfl isAt later

namespace TokenTree

variable {options : TreeOptions} {tree : TokenTree}

theorem Encloses.run [IsPreorder Nat Follows]
    (rootRun : Mark.Run Follows source tree.span.start.offset tree.span.stop
      (Node.walkAll .marks tree.children))
    (encloses : tree.Encloses start stop nodes) :
    Mark.Run Follows source start stop (Node.walkAll .marks nodes) := by
  induction encloses with
  | root => exact rootRun
  | group _ member inductionHypothesis =>
      obtain ⟨before, after, rfl⟩ := List.append_of_mem member
      rw [Node.walkAll_append] at inductionHypothesis
      obtain ⟨_, _, rest⟩ := inductionHypothesis.exists_middle
      exact rest.of_group.2.2.1

/-- The children of the root and of every group are placed between their brackets, one after
the other; without a gap if the tree keeps everything. -/
theorem spans_nest [Unicode.Segmentation] (parsed : parse options source = .ok tree) :
    tree.span = ⟨.origin, source.utf8ByteSize⟩ ∧
      (LineIndex.ofText source).position? source 0 = some .origin ∧
        ∀ start stop nodes, tree.Encloses start stop nodes →
          Node.ArePlaced source start stop nodes ∧
            (options.keepWhitespace → options.keepComments →
              Node.Chained (· = ·) start stop nodes) := by
  obtain ⟨tokens, tokenized, nested⟩ := exists_tokens_of_parse parsed
  have tiles := Token.isLexical_true.tiles tokenized
  have walked := Emission.marks_reads.walk_of_nest nested
  rw [← List.map_eq_flatMap] at walked
  have tokensRun : Mark.Run (· = ·) source 0 source.utf8ByteSize (tokens.map Token.mark) := by
    have run := tiles.run (List.nil_append _).symm rfl
    rwa [Position.offset_advance, ← List.append_nil (Token.textOf tokens), ← tiles.text_eq,
      String.utf8Len_toList, Position.origin, Nat.zero_add] at run
  have span_eq : tree.span = ⟨.origin, source.utf8ByteSize⟩ := by
    rw [parse_of_tokens tokenized] at parsed
    obtain ⟨children, _, rfl⟩ := Answer.map_eq_ok_iff.mp parsed
    rfl
  refine ⟨span_eq, LineIndex.position?_of_append (List.nil_append _).symm, ?_⟩
  intro start stop nodes encloses
  constructor
  · have rootRun : Mark.Run (· ≤ ·) source tree.span.start.offset tree.span.stop
        (Node.walkAll .marks tree.children) := by
      rw [walked, span_eq]
      exact tokensRun.weaken.sublist (List.filter_sublist.map _)
    have run := encloses.run rootRun
    exact run.chained.arePlaced fun node member => run.isPlaced_of_mem member
  · intro whitespaceKept commentsKept
    rw [TreeOptions.kept_eq_self whitespaceKept commentsKept] at walked
    have rootRun : Mark.Run (· = ·) source tree.span.start.offset tree.span.stop
        (Node.walkAll .marks tree.children) := by
      rw [walked, span_eq]
      exact tokensRun
    exact (encloses.run rootRun).chained

/-- The children of a group after a character of two bytes fill the place between its
brackets. -/
theorem spans_nest_in_group :
    let options : TreeOptions := { keepWhitespace := true }
    let source := "é(a b)"
    let nodes : List Node :=
      [.leaf .word "a" ⟨⟨3, 1, 3⟩, 4⟩, .leaf .whitespace " " ⟨⟨4, 1, 4⟩, 5⟩,
       .leaf .word "b" ⟨⟨5, 1, 5⟩, 6⟩]
    ∃ tree, parse options source = .ok tree ∧
      tree.Encloses 3 6 nodes ∧
        Node.ArePlaced source 3 6 nodes ∧
          Node.Chained (· = ·) 3 6 nodes := by
  intro options source nodes
  have tokenized : tokenize source = .ok
      [⟨.word, "é", ⟨0, 1, 1⟩⟩, ⟨.punct, "(", ⟨2, 1, 2⟩⟩, ⟨.word, "a", ⟨3, 1, 3⟩⟩,
       ⟨.whitespace, " ", ⟨4, 1, 4⟩⟩, ⟨.word, "b", ⟨5, 1, 5⟩⟩, ⟨.punct, ")", ⟨6, 1, 6⟩⟩] := by
    decide +kernel
  let tree : TokenTree :=
    ⟨⟨.origin, 7⟩, [.leaf .word "é" ⟨⟨0, 1, 1⟩, 2⟩, .group .paren ⟨⟨2, 1, 2⟩, 7⟩ nodes]⟩
  have parsed : parse options source = .ok tree := parse_of_tokens tokenized
  have member : Node.group .paren ⟨⟨2, 1, 2⟩, 7⟩ nodes ∈ tree.children := by simp [tree]
  have encloses : tree.Encloses 3 6 nodes := .group .root member
  obtain ⟨placed, chained⟩ := (spans_nest parsed).2.2 3 6 nodes encloses
  exact ⟨tree, parsed, encloses, placed, chained rfl rfl⟩

end TokenTree
end Baseline
