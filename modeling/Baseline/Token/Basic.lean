import Baseline.Text.Position

/-!
# Tokens

A token is a piece of source text with a kind and the position it starts at.
-/

namespace Baseline

/-- The kinds of tokens. -/
inductive TokenKind
  /-- Text that holds a letter, a digit or a low line. -/
  | word
  /-- Text that starts with an ASCII digit. -/
  | number
  /-- A quoted literal. -/
  | string
  /-- Any other visible text. -/
  | punct
  /-- Blanks within a line. -/
  | whitespace
  /-- A line break. -/
  | newline
  /-- A line comment or a block comment. -/
  | comment
  deriving DecidableEq, Repr

/-- A piece of source text. -/
structure Token where
  /-- What the text is. -/
  kind : TokenKind
  /-- The text itself. -/
  text : String
  /-- Where the text starts. -/
  start : Position
  deriving DecidableEq, Repr

namespace Token

/-- The byte offset just after the token. -/
def stop (token : Token) : Nat :=
  token.start.offset + token.text.utf8ByteSize

end Token
end Baseline
