import Baseline.Toml.Quoted

/-!
# TOML documents

A document is a sequence of lines: comments, definitions of keys, and headers
that open tables.  Reading it gives the entries of its outermost table.  Values
may nest up to a fixed depth.
-/

namespace Baseline
namespace Toml

/-- A reader of part of a document: it takes characters from the front and may
refuse. -/
abbrev Reader := StateT (List Char) Option

namespace Reader

/-- The next character, left in place. -/
def peek : Reader (Option Char) := do
  return (← get).head?

/-- Take one given character. -/
def take (char : Char) : Reader Unit := do
  match ← get with
  | other :: rest => if other = char then set rest else failure
  | [] => failure

/-- Take the characters that satisfy a condition, up to the first that does
not. -/
def takeWhile (condition : Char → Bool) : Reader (List Char) := do
  let text ← get
  set (text.dropWhile condition)
  return text.takeWhile condition

/-- Pass over blanks. -/
def gap : Reader Unit := do
  discard (takeWhile isGap)

/-- Take a comment, if there is one. -/
def comment : Reader Unit := do
  if (← peek) = some '#' then
    discard (takeWhile isTextual)

/-- Take a line break, or find the end of the document. -/
def lineBreak : Reader Unit := do
  match ← get with
  | [] => return ()
  | '\n' :: rest => set rest
  | '\r' :: '\n' :: rest => set rest
  | _ => failure

/-- Take the rest of a line that holds no more than a comment. -/
def lineEnd : Reader Unit := do
  gap
  comment
  lineBreak

/-- Pass over blanks, comments and line breaks. -/
def spaceOut (text : List Char) (inComment : Bool) : List Char :=
  match text with
  | [] => []
  | '\r' :: '\n' :: rest => spaceOut rest false
  | char :: rest =>
      if char = '\n' then spaceOut rest false
      else if inComment then
        if isTextual char then spaceOut rest true else char :: rest
      else if isGap char then spaceOut rest false
      else if char = '#' then spaceOut rest true
      else char :: rest

/-- Pass over blanks, comments and line breaks. -/
def space : Reader Unit :=
  modify fun text => spaceOut text false

/-- Take what a function on texts reads. -/
def ofFunction (read : List Char → Option Read) : Reader (List Char) := do
  match read (← get) with
  | some (text, rest) =>
      set rest
      return text
  | none => failure

/-- The characters of an unquoted key. -/
def inBareKey (char : Char) : Bool :=
  char.isAlphanum || char == '_' || char == '-'

/-- Take one part of a key. -/
def keyPart : Reader String := do
  let quote ← peek
  if quote = some '"' ∨ quote = some '\'' then
    return String.ofList (← ofFunction oneLine?)
  let text ← takeWhile inBareKey
  if text.isEmpty then failure
  return String.ofList text

/-- The greatest depth that values and keys may nest to. -/
def depthLimit : Nat := 80

/-- Take the parts of a key after the first; fewer than `fuel` of them. -/
def moreKeyParts : Nat → Reader (List String)
  | 0 => failure
  | fuel + 1 => do
      gap
      if (← peek) = some '.' then
        take '.'
        gap
        let part ← keyPart
        return part :: (← moreKeyParts fuel)
      else
        return []

/-- Take a key and the blanks after it: the parts before the last, and the last
one. -/
def keyPath : Reader (List String × String) := do
  let first ← keyPart
  let parts := first :: (← moreKeyParts depthLimit)
  if depthLimit ≤ parts.length then failure
  return (parts.dropLast, parts.getLast?.getD first)

/-- Take a value that is written without quotes or brackets.  A date may be
followed by a blank and a time. -/
def scalar : Reader Toml := do
  let text ← takeWhile inScalar
  if isDate text then
    match ← get with
    | ' ' :: rest =>
        let time := rest.takeWhile inScalar
        if isZonedTime time then set (rest.dropWhile inScalar)
        return .datetime
    | _ => return .datetime
  match scalar? text with
  | some value => return value
  | none => failure

/-- Take the items of an array after its opening bracket, and the closing one;
fewer than `fuel` of them. -/
def arrayItems (value : Reader Toml) : Nat → Reader (List Toml)
  | 0 => failure
  | fuel + 1 => do
      space
      if (← peek) = some ']' then
        take ']'
        return []
      let item ← value
      space
      if (← peek) = some ',' then
        take ','
        return item :: (← arrayItems value fuel)
      take ']'
      return [item]

/-- Take the definitions of an inline table after its opening brace, and the
closing one; at most `fuel` of them. -/
def inlineEntries (value : Reader Toml) : Nat → Origin × Entries → Reader Entries
  | 0, _ => failure
  | fuel + 1, (origin, entries) => do
      gap
      let (path, key) ← keyPath
      take '='
      gap
      let defined ← value
      gap
      match assign path key defined origin entries with
      | none => failure
      | some (origin, entries) =>
          if (← peek) = some ',' then
            take ','
            inlineEntries value fuel (origin, entries)
          else
            take '\x7d'
            return entries

/-- Take an inline table after its opening brace. -/
def inlineTable (value : Reader Toml) : Reader Toml := do
  gap
  if (← peek) = some '\x7d' then
    take '\x7d'
    return .table .inline []
  let entries ← inlineEntries value ((← get).length + 1) (.inline, [])
  return .table .inline entries

/-- Take a value, with less than `depth` levels of brackets. -/
def value : Nat → Reader Toml
  | 0 => failure
  | depth + 1 => do
      match ← peek with
      | some '"' | some '\'' => return .string (String.ofList (← ofFunction quoted?))
      | some '[' =>
          take '['
          if depth = 0 then failure
          return .array (← arrayItems (value depth) ((← get).length + 1))
      | some '\x7b' =>
          take '\x7b'
          if depth = 0 then failure
          inlineTable (value depth)
      | _ => scalar

end Reader

/-- A document that has been read up to some place. -/
structure Draft where
  /-- The outermost table. -/
  entries : Entries := []
  /-- The header in force. -/
  header : List String := []

namespace Draft

/-- Change the table that keys lead to from the outermost one. -/
def change (draft : Draft) (path : List String) (change : Change) : Option Draft := do
  let (_, entries) ← changeAt false change path .header draft.entries
  return { draft with entries }

/-- Define a key in the table of the header in force. -/
def assign (draft : Draft) (path : List String) (key : String) (value : Toml) :
    Option Draft :=
  draft.change draft.header (Toml.assign path key value)

/-- Open a table under a header. -/
def openTable (draft : Draft) (path : List String) (key : String) : Option Draft := do
  let next ← draft.change path (Toml.openTable key)
  return { next with header := path ++ [key] }

/-- Open one more table of an array under a header. -/
def openElement (draft : Draft) (path : List String) (key : String) : Option Draft := do
  let next ← draft.change path (Toml.openElement key)
  return { next with header := path ++ [key] }

end Draft

namespace Reader

/-- Take a header after its first bracket. -/
def header (draft : Draft) : Reader Draft := do
  let double := (← peek) = some '['
  if double then take '['
  gap
  let (path, key) ← keyPath
  take ']'
  if double then take ']'
  lineEnd
  StateT.lift (if double then draft.openElement path key else draft.openTable path key)

/-- Take the definition of a key. -/
def definition (draft : Draft) : Reader Draft := do
  let (path, key) ← keyPath
  take '='
  gap
  let value ← value depthLimit
  lineEnd
  StateT.lift (draft.assign path key value)

/-- Take the lines of a document; fewer than `fuel` of them. -/
def statements : Nat → Draft → Reader Draft
  | 0, _ => failure
  | fuel + 1, draft => do
      gap
      match ← peek with
      | none => return draft
      | some '#' =>
          lineEnd
          statements fuel draft
      | some '\n' | some '\r' =>
          lineBreak
          statements fuel draft
      | some '[' =>
          take '['
          statements fuel (← header draft)
      | some _ => statements fuel (← definition draft)

end Reader

/-- The entries of the outermost table of a document, if the text is one.  A
byte order mark at the start does not count. -/
def parse? (text : String) : Option Entries :=
  let chars :=
    match text.toList with
    | '\uFEFF' :: rest => rest
    | chars => chars
  ((Reader.statements (chars.length + 2) {}).run' chars).map Draft.entries

end Toml
end Baseline
