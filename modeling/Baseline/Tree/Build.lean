import Baseline.ParseFailure
import Baseline.Token.Lexer
import Baseline.Tree.Basic

/-!
# From tokens to trees

Tokens are read in order while a stack holds the groups that are still open.
An opening bracket pushes a group, a closing bracket must match the innermost
one and turns it into a node, and any other token becomes a leaf of the
innermost group.
-/

namespace Baseline

/-- Why brackets do not nest. -/
inductive NestingError
  /-- A closing bracket stands where no group is open. -/
  | unexpected (closer : String)
  /-- A closing bracket does not match the innermost open group. -/
  | mismatched (closer : String) (expected : Delimiter)
  /-- A group is still open at the end. -/
  | unclosed (delimiter : Delimiter)
  deriving DecidableEq, Repr

namespace NestingError

/-- The error in words. -/
def message : NestingError → String
  | .unexpected closer => s!"unexpected `{closer}`"
  | .mismatched closer expected =>
      s!"mismatched `{closer}`, expected `{expected.closer}`"
  | .unclosed delimiter => s!"unclosed `{delimiter.opener}`"

/-- The failure of a parse that meets the error at a position. -/
def failureAt (error : NestingError) (position : Position) : ParseFailure :=
  ⟨error.message, some position⟩

end NestingError

/-- A group whose closing bracket has not been read; children come last first. -/
structure OpenGroup where
  /-- The kind of its brackets. -/
  delimiter : Delimiter
  /-- Where its opening bracket stands. -/
  start : Position
  /-- The nodes read so far. -/
  children : List Node

/-- The part of a tree that the tokens read so far make; nodes come last first
and groups innermost first. -/
structure PartialTree where
  /-- The groups still open. -/
  groups : List OpenGroup
  /-- The finished nodes outside them. -/
  nodes : List Node

namespace PartialTree

/-- Nothing has been read. -/
def empty : PartialTree := ⟨[], []⟩

/-- Add a finished node to the innermost open group. -/
def add (tree : PartialTree) (node : Node) : PartialTree :=
  match tree.groups with
  | [] => { tree with nodes := node :: tree.nodes }
  | inner :: outer =>
      { tree with groups := { inner with children := node :: inner.children } :: outer }

/-- Close the innermost group with a closing bracket. -/
def close
    (tree : PartialTree)
    (token : Token)
    (delimiter : Delimiter) :
    Except ParseFailure PartialTree :=
  match tree.groups with
  | [] => .error ((NestingError.unexpected token.text).failureAt token.start)
  | inner :: outer =>
      if inner.delimiter = delimiter then
        .ok <| add { tree with groups := outer } <|
          .group delimiter ⟨inner.start, token.stop⟩ inner.children.reverse
      else
        .error ((NestingError.mismatched token.text inner.delimiter).failureAt token.start)

/-- Read one more token. -/
def push (tree : PartialTree) (token : Token) : Except ParseFailure PartialTree :=
  let leaf := Node.leaf token.kind token.text ⟨token.start, token.stop⟩
  if token.kind = .punct then
    match Delimiter.openedBy? token.text, Delimiter.closedBy? token.text with
    | some delimiter, _ =>
        .ok { tree with groups := ⟨delimiter, token.start, []⟩ :: tree.groups }
    | none, some delimiter => tree.close token delimiter
    | none, none => .ok (tree.add leaf)
  else
    .ok (tree.add leaf)

/-- The nodes of the whole text, once every group is closed. -/
def finish (tree : PartialTree) : Except ParseFailure (List Node) :=
  match tree.groups with
  | [] => .ok tree.nodes.reverse
  | inner :: _ => .error ((NestingError.unclosed inner.delimiter).failureAt inner.start)

end PartialTree

/-- Nest tokens by their brackets. -/
def nest (tokens : List Token) : Except ParseFailure (List Node) := do
  let tree ← tokens.foldlM PartialTree.push .empty
  tree.finish

/-- The token tree of a source text. -/
def TokenTree.parse
    [Unicode.Segmentation]
    (options : TreeOptions)
    (source : String) :
    Except ParseFailure TokenTree := do
  let tokens ← tokenize source
  let children ← nest (tokens.filter fun token => options.keeps token.kind)
  return ⟨⟨.origin, source.utf8ByteSize⟩, children⟩

end Baseline
