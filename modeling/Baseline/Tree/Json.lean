import Baseline.Json.Basic
import Baseline.Tree.Basic

/-!
# Token trees as JSON

A snapshot records a tree as JSON.  Every node has its kind and its span; a leaf
has its text, a group its delimiter, and a node with children has those.
-/

namespace Baseline

/-- The name of a token kind in a snapshot. -/
def TokenKind.name : TokenKind → String
  | .word => "Word"
  | .number => "Number"
  | .string => "String"
  | .punct => "Punct"
  | .whitespace => "Whitespace"
  | .newline => "Newline"
  | .comment => "Comment"

/-- The name of a delimiter in a snapshot. -/
def Delimiter.name : Delimiter → String
  | .paren => "Paren"
  | .bracket => "Bracket"
  | .brace => "Brace"

/-- Byte range, line and column. -/
def Span.toJson (span : Span) : Json :=
  .object
    [("start", .int span.start.offset), ("end", .int span.stop),
     ("line", .int span.start.line), ("column", .int span.start.column)]

/-- The children as a member, left out when there are none. -/
def childrenMember : List Json → List (String × Json)
  | [] => []
  | children => [("children", .array children)]

mutual

/-- A node as JSON. -/
def Node.toJson : Node → Json
  | .leaf kind text span =>
      .object [("kind", .string kind.name), ("text", .string text), ("span", span.toJson)]
  | .group delimiter span children =>
      .object <|
        [("kind", .string "Group"), ("delimiter", .string delimiter.name),
         ("span", span.toJson)] ++ childrenMember (Node.toJsonList children)

/-- Each node as JSON. -/
def Node.toJsonList : List Node → List Json
  | [] => []
  | node :: rest => node.toJson :: Node.toJsonList rest

end

/-- A whole tree as JSON. -/
def TokenTree.toJson (tree : TokenTree) : Json :=
  .object <|
    [("kind", .string "Program"), ("span", tree.span.toJson)] ++
      childrenMember (Node.toJsonList tree.children)

end Baseline
