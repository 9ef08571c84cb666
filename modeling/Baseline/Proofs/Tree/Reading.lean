import Baseline.Proofs.Answer
import Baseline.Tree.Build

/-!
# Reading tokens into a tree

A token is a bracket if it is punctuation and its text is one of the six
brackets.  What reading a token does to a partial tree depends on that alone:
an opening bracket opens a group, a closing bracket closes one or fails, any
other token becomes a leaf.  A source is parsed by reading those of its tokens
that are kept.
-/

namespace Baseline

/-- A bracket of one of the three kinds. -/
inductive Bracket
  /-- It opens a group. -/
  | opening (delimiter : Delimiter)
  /-- It closes a group. -/
  | closing (delimiter : Delimiter)
  deriving DecidableEq, Repr

namespace Bracket

/-- The bracket as it is written. -/
def char : Bracket → Char
  | .opening delimiter => delimiter.opener
  | .closing delimiter => delimiter.closer

/-- The six brackets. -/
def all : List Bracket :=
  [.opening .paren, .closing .paren, .opening .bracket, .closing .bracket, .opening .brace,
   .closing .brace]

/-- The bracket that a character is. -/
def ofChar? (char : Char) : Option Bracket :=
  all.find? fun bracket => bracket.char == char

theorem ofChar?_char (bracket : Bracket) : ofChar? bracket.char = some bracket := by
  rcases bracket with (_ | _ | _) | (_ | _ | _) <;> rfl

theorem ofChar?_eq_some_iff {char : Char} {bracket : Bracket} :
    ofChar? char = some bracket ↔ bracket.char = char := by
  constructor
  · intro found
    simpa using List.find?_some found
  · rintro rfl
    exact ofChar?_char bracket

end Bracket

namespace Delimiter

variable {text : String} {delimiter : Delimiter}

theorem openedBy?_eq_some_iff :
    openedBy? text = some delimiter ↔ text = String.singleton delimiter.opener := by
  constructor
  · fun_cases openedBy? text with
    | case1 text_eq => rintro ⟨⟩; exact text_eq
    | case2 _ text_eq => rintro ⟨⟩; exact text_eq
    | case3 _ _ text_eq => rintro ⟨⟩; exact text_eq
    | case4 => rintro ⟨⟩
  · rintro rfl
    exact openedBy?_opener delimiter

theorem closedBy?_eq_some_iff :
    closedBy? text = some delimiter ↔ text = String.singleton delimiter.closer := by
  constructor
  · fun_cases closedBy? text with
    | case1 text_eq => rintro ⟨⟩; exact text_eq
    | case2 _ text_eq => rintro ⟨⟩; exact text_eq
    | case3 _ _ text_eq => rintro ⟨⟩; exact text_eq
    | case4 => rintro ⟨⟩
  · rintro rfl
    exact closedBy?_closer delimiter

end Delimiter

namespace Token

/-- The bracket that a token is. -/
def bracket? (token : Token) : Option Bracket :=
  if token.kind = .punct then
    match token.text.toList with
    | [char] => Bracket.ofChar? char
    | _ => none
  else none

/-- A token as a leaf of a tree. -/
def leaf (token : Token) : Node :=
  .leaf token.kind token.text ⟨token.start, token.stop⟩

variable {token : Token} {bracket : Bracket} {delimiter : Delimiter}

/-- A token is a bracket if it is punctuation and the bracket is its text. -/
theorem bracket?_eq_some_iff :
    token.bracket? = some bracket ↔
      token.kind = .punct ∧ token.text = String.singleton bracket.char := by
  unfold bracket?
  split
  next punct =>
    simp only [punct, true_and, ← String.toList_inj, String.toList_singleton]
    split
    next char text_eq =>
      rw [Bracket.ofChar?_eq_some_iff, text_eq, List.singleton_inj, eq_comm]
    next longer =>
      simp only [reduceCtorEq, false_iff]
      exact longer bracket.char
  next other => simp [other]

theorem bracket?_of_kind (other : token.kind ≠ .punct) : token.bracket? = none := by
  rw [bracket?, if_neg other]

theorem toList_of_bracket? (found : token.bracket? = some bracket) :
    token.text.toList = [bracket.char] := by
  rw [(bracket?_eq_some_iff.mp found).2, String.toList_singleton]

theorem stop_of_bracket? (found : token.bracket? = some bracket) :
    token.stop = token.start.offset + 1 := by
  rw [stop, (bracket?_eq_some_iff.mp found).2]
  rcases bracket with (_ | _ | _) | (_ | _ | _) <;> rfl

end Token

namespace PartialTree

open Token (bracket?_eq_some_iff)

variable {tree after : PartialTree} {token : Token} {delimiter : Delimiter}

theorem openedBy?_of_closing (closes : token.bracket? = some (.closing delimiter)) :
    Delimiter.openedBy? token.text = none := by
  rw [(bracket?_eq_some_iff.mp closes).2]
  cases delimiter <;> rfl

/-- A token that is no bracket becomes a leaf. -/
theorem push_of_plain (plain : token.bracket? = none) :
    tree.push token = .ok (tree.add token.leaf) := by
  have different (bracket : Bracket) (punct : token.kind = .punct) :
      token.text ≠ String.singleton bracket.char := by
    intro text_eq
    rw [bracket?_eq_some_iff.mpr ⟨punct, text_eq⟩] at plain
    cases plain
  unfold push
  split
  next punct =>
    split
    next opened =>
      exact absurd (Delimiter.openedBy?_eq_some_iff.mp opened) (different (.opening _) punct)
    next closed =>
      exact absurd (Delimiter.closedBy?_eq_some_iff.mp closed) (different (.closing _) punct)
    next => rfl
  next => rfl

/-- An opening bracket opens a group. -/
theorem push_of_opening (opens : token.bracket? = some (.opening delimiter)) :
    tree.push token =
      .ok { tree with groups := ⟨delimiter, token.start, []⟩ :: tree.groups } := by
  obtain ⟨punct, text_eq⟩ := bracket?_eq_some_iff.mp opens
  have opened : Delimiter.openedBy? token.text = some delimiter :=
    Delimiter.openedBy?_eq_some_iff.mpr text_eq
  simp only [push, punct, if_true, opened]

/-- A closing bracket closes the innermost group. -/
theorem push_of_closing (closes : token.bracket? = some (.closing delimiter)) :
    tree.push token = tree.close token delimiter := by
  obtain ⟨punct, text_eq⟩ := bracket?_eq_some_iff.mp closes
  have closed : Delimiter.closedBy? token.text = some delimiter :=
    Delimiter.closedBy?_eq_some_iff.mpr text_eq
  simp only [push, punct, if_true, openedBy?_of_closing closes, closed]

/-- A closing bracket that is read closes the innermost group, whose kind it has. -/
theorem close_eq_ok_iff :
    tree.close token delimiter = .ok after ↔
      ∃ inner outer, tree.groups = inner :: outer ∧
        inner.delimiter = delimiter ∧
          after = add { tree with groups := outer }
            (.group delimiter ⟨inner.start, token.stop⟩ inner.children.reverse) := by
  unfold close
  split
  next none_open => simp [none_open]
  next inner outer groups_eq =>
    rw [groups_eq]
    constructor
    · intro closed
      split at closed
      next same =>
        cases closed
        exact ⟨inner, outer, rfl, same, rfl⟩
      next => cases closed
    · rintro ⟨_, _, ⟨⟩, same, rfl⟩
      rw [if_pos same]

end PartialTree

/-! ## Sources -/

/-- Those of the tokens that a tree keeps. -/
def TreeOptions.kept (options : TreeOptions) (tokens : List Token) : List Token :=
  tokens.filter fun token => options.keeps token.kind

/-- A tree keeps all brackets. -/
theorem TreeOptions.bracket?_of_dropped
    {options : TreeOptions}
    {token : Token}
    (dropped : options.keeps token.kind = false) :
    token.bracket? = none := by
  apply Token.bracket?_of_kind
  intro punct
  rw [punct] at dropped
  cases dropped

/-- A tree that keeps white space and comments keeps all tokens. -/
theorem TreeOptions.kept_eq_self
    {options : TreeOptions}
    (whitespaceKept : options.keepWhitespace)
    (commentsKept : options.keepComments)
    (tokens : List Token) :
    options.kept tokens = tokens := by
  rw [kept, List.filter_eq_self]
  intro token _
  cases found : token.kind <;> simp [keeps, whitespaceKept, commentsKept]

namespace TokenTree

variable
  [Unicode.Segmentation]
  {options : TreeOptions}
  {source : String}
  {tokens : List Token}
  {tree : TokenTree}
  {failure : ParseFailure}

/-- A source that is no sequence of tokens is refused for that reason. -/
theorem parse_of_failure (refused : tokenize source = .error failure) :
    parse options source = .error failure := by
  rw [parse, refused]
  rfl

/-- The kept tokens of a source are nested. -/
theorem parse_of_tokens (tokenized : tokenize source = .ok tokens) :
    parse options source =
      (nest (options.kept tokens)).map fun children =>
        ⟨⟨.origin, source.utf8ByteSize⟩, children⟩ := by
  rw [parse, tokenized]
  rfl

theorem exists_tokens_of_parse (parsed : parse options source = .ok tree) :
    ∃ tokens, tokenize source = .ok tokens ∧ nest (options.kept tokens) = .ok tree.children := by
  cases tokenized : tokenize source with
  | error failure =>
      rw [parse_of_failure tokenized] at parsed
      cases parsed
  | ok tokens =>
      rw [parse_of_tokens tokenized] at parsed
      obtain ⟨children, nested, rfl⟩ := Answer.map_eq_ok_iff.mp parsed
      exact ⟨tokens, rfl, nested⟩

end TokenTree
end Baseline
