import Baseline.Proofs.Token.Bracketing
import Baseline.Proofs.Tree.Nesting
import Baseline.Proofs.Tree.Walk

/-!
# Brackets that delimit groups

A bracket of a source that lies outside strings and comments delimits a group of
its tree, unless a character attaches to it: then it is a part of a leaf
(`brackets_delimit_unless_attached`).  So a source in which nothing attaches to
such brackets is accepted exactly if they are balanced, but an unmatched bracket
with a mark on it is not noticed (`attached_bracket_unmatched`).
-/

namespace Baseline

open Unicode (startsAttached)

mutual

/-- The kinds and the extents of the groups of a node. -/
def Node.groups : Node → List (Delimiter × Span)
  | .leaf _ _ _ => []
  | .group delimiter span children => (delimiter, span) :: Node.groupsAll children

/-- The kinds and the extents of the groups of nodes. -/
def Node.groupsAll : List Node → List (Delimiter × Span)
  | [] => []
  | node :: rest => node.groups ++ Node.groupsAll rest

end

namespace Bracket

/-- The kind of a bracket. -/
def delimiter : Bracket → Delimiter
  | .opening delimiter => delimiter
  | .closing delimiter => delimiter

/-- The end of a span at which the bracket of a group stands. -/
def edge : Bracket → Span → Nat
  | .opening _, span => span.start.offset
  | .closing _, span => span.stop

/-- That end, for a bracket at a byte offset: a group starts before its opening bracket
and stops after its closing bracket. -/
def edgeAt : Bracket → Nat → Nat
  | .opening _, offset => offset
  | .closing _, offset => offset + 1

end Bracket

/-- The bracket at the byte offset opens or closes a group of the tree. -/
def TokenTree.Delimits (tree : TokenTree) (bracket : Bracket) (offset : Nat) : Prop :=
  ∃ span, (bracket.delimiter, span) ∈ Node.groupsAll tree.children ∧
    bracket.edge span = bracket.edgeAt offset

namespace Token

/-- No string and no comment covers the byte offset. -/
def Outside (tokens : List Token) (offset : Nat) : Prop :=
  ∀ token ∈ tokens, token.start.offset ≤ offset → offset < token.stop →
    token.kind ≠ .string ∧ token.kind ≠ .comment

/-- The brackets in the text of a token that is no string and no comment. -/
def visible (token : Token) : List Bracket :=
  if token.kind = .string ∨ token.kind = .comment then []
  else token.text.toList.filterMap Bracket.ofChar?

end Token

/-! ## Edges of groups -/

/-- A walk that emits the brackets of the groups and where they stand. -/
def Emission.edges : Emission (Bracket × Nat) where
  leaf _ _ _ := []
  opening delimiter start := [(.opening delimiter, start.offset)]
  closing delimiter stop := [(.closing delimiter, stop)]

/-- A bracket token and where it stands. -/
def Token.edges (token : Token) : List (Bracket × Nat) :=
  (token.bracket?.map fun bracket => (bracket, bracket.edge ⟨token.start, token.stop⟩)).toList

theorem Emission.edges_reads : Emission.edges.Reads Token.edges where
  leaf plain := by rw [Token.edges, plain]; rfl
  opening opens := by rw [Token.edges, opens]; rfl
  closing closes := by rw [Token.edges, closes]; rfl

namespace Node

mutual

/-- The walk meets the edges of the groups of a node. -/
theorem mem_walk_edges_iff {bracket : Bracket} {edge : Nat} (node : Node) :
    (bracket, edge) ∈ node.walk .edges ↔
      ∃ span, (bracket.delimiter, span) ∈ node.groups ∧ bracket.edge span = edge := by
  cases node with
  | leaf kind text span => simp [walk, groups, Emission.edges]
  | group delimiter span children =>
      have here : (bracket, edge) ∈ Emission.edges.opening delimiter span.start ∨
          (bracket, edge) ∈ Emission.edges.closing delimiter span.stop ↔
            bracket.delimiter = delimiter ∧ bracket.edge span = edge := by
        cases bracket <;> simp [Emission.edges, Bracket.delimiter, Bracket.edge, eq_comm]
      rw [walk, groups, List.mem_append, List.mem_append, or_comm (a := _ ∈ walkAll _ _),
        ← or_assoc, here, mem_walkAll_edges_iff children]
      simp only [List.mem_cons, or_and_right, exists_or, Prod.mk.injEq, and_assoc,
        exists_and_left, exists_eq_left]

/-- The walk meets the edges of the groups of nodes. -/
theorem mem_walkAll_edges_iff {bracket : Bracket} {edge : Nat} (nodes : List Node) :
    (bracket, edge) ∈ walkAll .edges nodes ↔
      ∃ span, (bracket.delimiter, span) ∈ groupsAll nodes ∧ bracket.edge span = edge := by
  cases nodes with
  | nil => simp [groupsAll]
  | cons node rest =>
      rw [walkAll_cons, groupsAll]
      simp only [List.mem_append, mem_walk_edges_iff node, mem_walkAll_edges_iff rest, or_and_right,
        exists_or]

end

end Node

namespace Token

variable
  {token : Token}
  {tokens : List Token}
  {source : String}
  {bracket : Bracket}
  {before after : List Char}
  {offset : Nat}

theorem mem_edges_iff :
    (bracket, bracket.edgeAt offset) ∈ token.edges ↔
      token.bracket? = some bracket ∧ token.start.offset = offset := by
  simp only [edges, Option.mem_toList, Option.map_eq_some_iff, Prod.mk.injEq]
  constructor
  · rintro ⟨other, found, rfl, edge_eq⟩
    refine ⟨found, ?_⟩
    cases other with
    | opening delimiter => exact edge_eq
    | closing delimiter =>
        rw [Bracket.edge, Bracket.edgeAt, stop_of_bracket? found] at edge_eq
        exact Nat.succ.inj edge_eq
  · rintro ⟨found, rfl⟩
    refine ⟨bracket, found, rfl, ?_⟩
    cases bracket with
    | opening delimiter => rfl
    | closing delimiter => exact stop_of_bracket? found

end Token

/-- The groups of a tree are delimited by the bracket tokens. -/
theorem TokenTree.delimits_iff
    {options : TreeOptions}
    {tokens : List Token}
    {tree : TokenTree}
    {bracket : Bracket}
    {offset : Nat}
    (nested : nest (options.kept tokens) = .ok tree.children) :
    tree.Delimits bracket offset ↔
      ∃ token ∈ tokens, token.bracket? = some bracket ∧ token.start.offset = offset := by
  rw [Delimits, ← Node.mem_walkAll_edges_iff, Emission.edges_reads.walk_of_nest nested,
    List.mem_flatMap]
  simp only [Token.mem_edges_iff, TreeOptions.kept, List.mem_filter]
  constructor
  · rintro ⟨token, ⟨member, _⟩, isBracket⟩
    exact ⟨token, member, isBracket⟩
  · rintro ⟨token, member, isBracket⟩
    refine ⟨token, ⟨member, ?_⟩, isBracket⟩
    cases kept : options.keeps token.kind with
    | true => rfl
    | false =>
        rw [TreeOptions.bracket?_of_dropped kept] at isBracket
        cases isBracket.1

/-! ## Exposed brackets -/

namespace Token

/-- The source has the bracket between these texts, outside strings and comments. -/
structure Exposed
    (source : String)
    (tokens : List Token)
    (before : List Char)
    (bracket : Bracket)
    (after : List Char) : Prop where
  /-- The source is the text before the bracket, the bracket, and the text after it. -/
  source_eq : source.toList = before ++ bracket.char :: after
  /-- No string and no comment covers the bracket. -/
  outside : Outside tokens (String.utf8Len before)

variable
  {token : Token}
  {tokens : List Token}
  {source : String}
  {bracket : Bracket}
  {before after : List Char}

/-- An exposed bracket is a token of its own unless a character attaches to it. -/
theorem Exposed.exists_token_iff
    (tokenized : tokenize source = .ok tokens)
    (exposed : Exposed source tokens before bracket after) :
    (∃ token ∈ tokens,
        token.bracket? = some bracket ∧ token.start.offset = String.utf8Len before) ↔
      startsAttached after = false := by
  have tiles := isLexical_bracketing.tiles tokenized
  obtain ⟨source_eq, outside⟩ := exposed
  rw [tiles.text_eq, List.append_nil] at source_eq
  obtain ⟨left, token, right, front, back, rfl, token_eq, rfl, rfl⟩ :=
    exists_token_of_textOf_eq source_eq
  -- The token in which the bracket stands is the only one that covers its offset.
  have member : token ∈ left ++ token :: right := by simp
  have covers := tiles.covers token_eq
  have unquoted := outside token member covers.1 covers.2
  obtain ⟨rfl, isBracket⟩ := (bracketing_of_tokenize tokenized).of_bracket unquoted token_eq
  rw [← isBracket]
  constructor
  · rintro ⟨other, otherMember, found, offset_eq⟩
    have otherCovers := tiles.start_lt_stop otherMember
    rw [offset_eq] at otherCovers
    exact tiles.eq_of_covers member otherMember covers ⟨offset_eq.le, otherCovers⟩ ▸ found
  · intro found
    refine ⟨token, member, found, ?_⟩
    rw [tiles.offset_eq, List.append_nil]

/-- A bracket in the text of a token that is no string and no comment is exposed. -/
theorem Tiles.exposed
    {Fits : Token → List Char → Prop}
    {left right : List Token}
    {front back : List Char}
    (tiles : Tiles Fits .origin source.toList (left ++ token :: right) [])
    (unquoted : token.kind ≠ .string ∧ token.kind ≠ .comment)
    (token_eq : token.text.toList = front ++ bracket.char :: back) :
    Exposed source (left ++ token :: right) (textOf left ++ front) bracket
      (back ++ textOf right) where
  source_eq := by
    rw [tiles.text_eq, textOf_append, textOf_cons, token_eq]
    simp
  outside other otherMember starts stops := by
    rwa [tiles.eq_of_covers (by simp) otherMember (tiles.covers token_eq) ⟨starts, stops⟩]

/-- No character attaches to an exposed bracket. -/
def Apart (source : String) (tokens : List Token) : Prop :=
  ∀ before bracket after,
    Exposed source tokens before bracket after → startsAttached after = false

/-- A token shows just the bracket that it is if, unless it is a string or a comment, it is
every bracket in its text. -/
theorem visible_eq_toList
    (isBracket : token.kind ≠ .string ∧ token.kind ≠ .comment →
      ∀ front bracket back, token.text.toList = front ++ Bracket.char bracket :: back →
        token.bracket? = some bracket) :
    token.visible = token.bracket?.toList := by
  rw [visible]
  split
  next quoted =>
    have other : token.kind ≠ .punct := by
      rcases quoted with kind_eq | kind_eq <;> simp [kind_eq]
    rw [bracket?_of_kind other, Option.toList_none]
  next unquoted =>
    cases found : token.bracket? with
    | some bracket =>
        rw [toList_of_bracket? found, List.filterMap_cons_some (Bracket.ofChar?_char bracket)]
        rfl
    | none =>
        refine List.filterMap_eq_nil_iff.mpr fun char member => ?_
        cases isChar : Bracket.ofChar? char with
        | none => rfl
        | some bracket =>
            obtain ⟨front, back, token_eq⟩ := List.append_of_mem member
            rw [← Bracket.ofChar?_eq_some_iff.mp isChar] at token_eq
            rw [isBracket (not_or.mp unquoted) front bracket back token_eq] at found
            cases found

/-- If nothing attaches to exposed brackets, they are the bracket tokens. -/
theorem flatMap_visible_of_apart
    (tokenized : tokenize source = .ok tokens)
    (apart : Apart source tokens) :
    tokens.flatMap visible = brackets tokens := by
  rw [brackets, List.filterMap_eq_flatMap_toList]
  refine List.flatMap_congr fun token member => ?_
  obtain ⟨left, right, rfl⟩ := List.append_of_mem member
  refine visible_eq_toList fun unquoted front bracket back token_eq => ?_
  have exposed := (isLexical_bracketing.tiles tokenized).exposed unquoted token_eq
  exact ((bracketing_of_tokenize tokenized).of_bracket unquoted token_eq).2.mpr
    (apart _ _ _ exposed)

end Token

namespace TokenTree

open Token (Apart Exposed visible)

variable
  {source : String}
  {tokens : List Token}

/-- In an accepted source an exposed bracket delimits a group unless a character attaches
to it.  If none does, the source is accepted exactly if its exposed brackets are balanced. -/
theorem brackets_delimit_unless_attached (tokenized : tokenize source = .ok tokens) :
    (∀ options tree before bracket after,
      parse options source = .ok tree →
        Exposed source tokens before bracket after →
          (tree.Delimits bracket (String.utf8Len before) ↔ startsAttached after = false)) ∧
      ∀ options, Apart source tokens →
        ((∃ tree, parse options source = .ok tree) ↔ Balanced (tokens.flatMap visible)) := by
  constructor
  · intro options tree before bracket after parsed exposed
    obtain ⟨others, othersTokenized, nested⟩ := exists_tokens_of_parse parsed
    rw [tokenized] at othersTokenized
    cases othersTokenized
    rw [delimits_iff nested, exposed.exists_token_iff tokenized]
  · intro options apart
    rw [exists_parse_iff_of_tokens tokenized, Token.flatMap_visible_of_apart tokenized apart]

/-- The round brackets delimit a group, and a square bracket with an accent on it does not. -/
theorem round_delimits_accented_does_not :
    let source := "(a)[\u0301"
    let tokens : List Token :=
      [⟨.punct, "(", ⟨0, 1, 1⟩⟩, ⟨.word, "a", ⟨1, 1, 2⟩⟩, ⟨.punct, ")", ⟨2, 1, 3⟩⟩,
       ⟨.punct, "[\u0301", ⟨3, 1, 4⟩⟩]
    tokenize source = .ok tokens ∧
      ∃ tree, parse {} source = .ok tree ∧
        tree.Delimits (.opening .paren) 0 ∧
          ¬tree.Delimits (.opening .bracket) 3 := by
  intro source tokens
  have tokenized : tokenize source = .ok tokens := by decide +kernel
  obtain ⟨tree, parsed⟩ : ∃ tree, parse {} source = .ok tree :=
    ⟨_, (parse_of_tokens tokenized).trans rfl⟩
  have delimits := (brackets_delimit_unless_attached tokenized).1 {} tree
  have round : Exposed source tokens [] (.opening .paren) "a)[\u0301".toList :=
    ⟨by decide +kernel, by simp [Token.Outside, tokens]⟩
  have square : Exposed source tokens "(a)".toList (.opening .bracket) "\u0301".toList :=
    ⟨by decide +kernel, by simp [Token.Outside, tokens]⟩
  refine ⟨tokenized, tree, parsed, ?_, ?_⟩
  · exact (delimits _ _ _ parsed round).mpr (by decide +kernel)
  · exact mt (delimits _ _ _ parsed square).mp (by decide +kernel)

/-- An accent hides an opening bracket, so that nobody misses the closing one. -/
theorem attached_bracket_unmatched :
    let source := "(\u0301"
    let tokens : List Token := [⟨.punct, source, ⟨0, 1, 1⟩⟩]
    tokenize source = .ok tokens ∧
      Exposed source tokens [] (.opening .paren) "\u0301".toList ∧
        ¬Balanced (tokens.flatMap visible) ∧
          ∃ tree, parse {} source = .ok tree ∧ ¬tree.Delimits (.opening .paren) 0 := by
  intro source tokens
  have tokenized : tokenize source = .ok tokens := by decide +kernel
  have exposed : Exposed source tokens [] (.opening .paren) "\u0301".toList :=
    ⟨by decide +kernel, by simp [Token.Outside, tokens]⟩
  refine ⟨tokenized, exposed, ?_, ?_⟩
  · have visible_eq : tokens.flatMap visible = [.opening .paren] := by decide +kernel
    rw [visible_eq]
    generalize word_eq : [Bracket.opening .paren] = word
    rintro (_ | _)
    · cases word_eq
    · simp at word_eq
  · have parsed : parse {} source = _ := parse_of_tokens tokenized
    refine ⟨_, parsed, ?_⟩
    rintro ⟨span, group, _⟩
    cases group

end TokenTree
end Baseline
