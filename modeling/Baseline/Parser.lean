import Baseline.Json.Basic
import Baseline.ParseFailure
import Baseline.Surface
import Baseline.Text.Pieces
import Baseline.Tree.Build
import Baseline.Tree.Json

/-!
# Parsers under test

A parser takes a text and gives a JSON value, or refuses the text.  It may also
give something that has no JSON form.
-/

namespace Baseline

/-- What a parser makes of a text. -/
inductive Parsed
  /-- The value the text stands for. -/
  | value (value : Json)
  /-- The parser refuses the text. -/
  | refused (failure : ParseFailure)
  /-- The result has no JSON form. -/
  | unserializable (reason : String)
  deriving Repr

/-- A parser and the capabilities it shows. -/
structure Parser where
  /-- The capabilities it shows. -/
  surface : Surface := Surface.parser
  /-- What it makes of a text. -/
  parse : String → Parsed

namespace Parser

/-- The parser for token trees. -/
def tokenTrees (options : TreeOptions) : Parser where
  parse source :=
    match TokenTree.parse options source with
    | .ok tree => .value tree.toJson
    | .error failure => .refused failure

/-- A parser that lists the lines of a text and refuses exclamation marks. -/
def lineList : Parser where
  parse source :=
    if source.toList.contains '!' then .refused ⟨"unexpected `!`", none⟩
    else
      let lines := (Text.pieces '\n' source.toList).map fun line => Json.string (String.ofList line)
      .value (.object [("type", .string "Program"), ("lines", .array lines)])

/-- A parser whose results have no JSON form. -/
def keyless : Parser where
  parse _ := .unserializable "key must be a string"

end Parser
end Baseline
