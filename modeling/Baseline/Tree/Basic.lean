import Baseline.Token.Basic

/-!
# Token trees

The tokens of a text, nested by its brackets.  A tree has leaves, which are
tokens, and groups, which stand for a pair of brackets and what lies between
them.
-/

namespace Baseline

/-- The three kinds of brackets. -/
inductive Delimiter
  /-- Round brackets. -/
  | paren
  /-- Square brackets. -/
  | bracket
  /-- Curly brackets. -/
  | brace
  deriving DecidableEq, Repr

namespace Delimiter

/-- The bracket that opens a group. -/
def opener : Delimiter → Char
  | .paren => '('
  | .bracket => '['
  | .brace => '{'

/-- The bracket that closes a group. -/
def closer : Delimiter → Char
  | .paren => ')'
  | .bracket => ']'
  | .brace => '}'

/-- The delimiter that the text opens. -/
def openedBy? (text : String) : Option Delimiter :=
  if text = "(" then some .paren
  else if text = "[" then some .bracket
  else if text = "\x7b" then some .brace
  else none

/-- The delimiter that the text closes. -/
def closedBy? (text : String) : Option Delimiter :=
  if text = ")" then some .paren
  else if text = "]" then some .bracket
  else if text = "\x7d" then some .brace
  else none

theorem openedBy?_opener (delimiter : Delimiter) :
    openedBy? (String.singleton delimiter.opener) = some delimiter := by
  cases delimiter <;> rfl

theorem closedBy?_closer (delimiter : Delimiter) :
    closedBy? (String.singleton delimiter.closer) = some delimiter := by
  cases delimiter <;> rfl

end Delimiter

/-- The extent of a node in the source. -/
structure Span where
  /-- Where the node starts. -/
  start : Position
  /-- The byte offset just after the node. -/
  stop : Nat
  deriving DecidableEq, Repr

/-- A node below the root of a token tree. -/
inductive Node
  /-- A token that is not a bracket. -/
  | leaf (kind : TokenKind) (text : String) (span : Span)
  /-- A pair of brackets and the nodes between them. -/
  | group (delimiter : Delimiter) (span : Span) (children : List Node)
  deriving Repr

/-- The nodes of a whole source text. -/
structure TokenTree where
  /-- The extent of the source. -/
  span : Span
  /-- The nodes outside all brackets. -/
  children : List Node
  deriving Repr

/-- Which tokens a tree keeps. -/
structure TreeOptions where
  /-- Blanks become leaves. -/
  keepWhitespace : Bool := false
  /-- Comments become leaves. -/
  keepComments : Bool := true
  deriving DecidableEq, Repr

namespace TreeOptions

/-- The tree keeps tokens of this kind. -/
def keeps (options : TreeOptions) : TokenKind → Bool
  | .whitespace => options.keepWhitespace
  | .comment => options.keepComments
  | _ => true

end TreeOptions
end Baseline
