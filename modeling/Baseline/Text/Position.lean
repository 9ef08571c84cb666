/-!
# Positions in a text

A position is a byte offset in the UTF-8 form of a text, with the line and the
column it falls on.  Lines end with a line feed; columns count characters; both
start at one.

`advance_append` lets positions be computed piece by piece, and `locate?` finds
the position of a byte offset if a character starts or the text ends there.
-/

namespace Baseline

/-- A place in a text. -/
structure Position where
  /-- Bytes before the place. -/
  offset : Nat
  /-- Line, counted from one. -/
  line : Nat
  /-- Column in characters, counted from one. -/
  column : Nat
  deriving DecidableEq, Repr, Inhabited

namespace Position

/-- The place before the first character. -/
def origin : Position := ⟨0, 1, 1⟩

/-- The place after one more character. -/
def next (position : Position) (char : Char) : Position where
  offset := position.offset + char.utf8Size
  line := if char = '\n' then position.line + 1 else position.line
  column := if char = '\n' then 1 else position.column + 1

/-- The place after some more text. -/
def advance (position : Position) (text : List Char) : Position :=
  text.foldl next position

@[simp] theorem advance_nil (position : Position) : position.advance [] = position := rfl

@[simp] theorem advance_cons
    (position : Position)
    (char : Char)
    (rest : List Char) :
    position.advance (char :: rest) = (position.next char).advance rest := rfl

@[simp] theorem advance_append
    (position : Position)
    (left right : List Char) :
    position.advance (left ++ right) = (position.advance left).advance right :=
  List.foldl_append

/-- The place with the given byte offset, found by walking the text from the
place reached so far. -/
def locateFrom (offset : Nat) : Position → List Char → Option Position
  | position, [] => if position.offset = offset then some position else none
  | position, char :: rest =>
      if position.offset = offset then some position
      else locateFrom offset (position.next char) rest

/-- The place with the given byte offset; nothing when the offset is past the
end or inside a character. -/
def locate? (text : String) (offset : Nat) : Option Position :=
  locateFrom offset origin text.toList

end Position
end Baseline
