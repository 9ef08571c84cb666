import Baseline.Toml.Scalar

/-!
# TOML strings

The four kinds of quoted strings: between quotation marks with escapes, between
apostrophes without, and both over several lines between tripled marks.  Each
reader starts just after the opening marks and gives the string and the text
after the closing ones.
-/

namespace Baseline
namespace Toml

/-- A text that was read, and the text after it. -/
abbrev Read := List Char × List Char

/-- Put characters before the text that was read. -/
def before (chars : List Char) (read : Option Read) : Option Read :=
  read.map fun (text, rest) => (chars ++ text, rest)

/-- The character may stand in a document: a tab, or no control character. -/
def isTextual (char : Char) : Bool :=
  char == '\t' || (32 ≤ char.toNat && char.toNat != 127)

/-- Space and tab. -/
def isGap (char : Char) : Bool :=
  char == ' ' || char == '\t'

/-- The character that a letter after a backslash stands for. -/
def escaped? : Char → Option Char
  | 'b' => some '\x08'
  | 't' => some '\t'
  | 'n' => some '\n'
  | 'f' => some '\x0c'
  | 'r' => some '\r'
  | '"' => some '"'
  | '\\' => some '\\'
  | _ => none

/-- The character whose code point hexadecimal digits give. -/
def ofHex? (digits : List Char) : Option Char :=
  let code := numeral 16 digits
  if digits.all isHexDigit && code.isValidChar then some (Char.ofNat code) else none

/-- A string between quotation marks. -/
def basic : List Char → Option Read
  | [] => none
  | '"' :: rest => some ([], rest)
  | '\\' :: 'u' :: a :: b :: c :: d :: rest => do
      before [← ofHex? [a, b, c, d]] (basic rest)
  | '\\' :: 'U' :: a :: b :: c :: d :: e :: f :: g :: h :: rest => do
      before [← ofHex? [a, b, c, d, e, f, g, h]] (basic rest)
  | '\\' :: mark :: rest => do
      before [← escaped? mark] (basic rest)
  | char :: rest => if isTextual char then before [char] (basic rest) else none

/-- A string between apostrophes. -/
def literal : List Char → Option Read
  | [] => none
  | '\'' :: rest => some ([], rest)
  | char :: rest => if isTextual char then before [char] (literal rest) else none

/-- A line break stands after some blanks. -/
def endsLine (text : List Char) : Bool :=
  match text.dropWhile isGap with
  | '\n' :: _ => true
  | '\r' :: '\n' :: _ => true
  | _ => false

/-- A string over several lines between tripled quotation marks.  After a
backslash at the end of a line, blanks and line breaks are passed over
(`skipping`).  Up to two marks may stand just before the closing ones. -/
def basicLines (skipping : Bool) : List Char → Option Read
  | [] => none
  | '"' :: '"' :: '"' :: '"' :: '"' :: rest => some (['"', '"'], rest)
  | '"' :: '"' :: '"' :: '"' :: rest => some (['"'], rest)
  | '"' :: '"' :: '"' :: rest => some ([], rest)
  | '\\' :: 'u' :: a :: b :: c :: d :: rest => do
      before [← ofHex? [a, b, c, d]] (basicLines false rest)
  | '\\' :: 'U' :: a :: b :: c :: d :: e :: f :: g :: h :: rest => do
      before [← ofHex? [a, b, c, d, e, f, g, h]] (basicLines false rest)
  | '\\' :: mark :: rest =>
      if endsLine (mark :: rest) then basicLines true (mark :: rest)
      else do before [← escaped? mark] (basicLines false rest)
  | '\r' :: '\n' :: rest =>
      if skipping then basicLines true rest else before ['\n'] (basicLines false rest)
  | char :: rest =>
      if skipping && (isGap char || char == '\n') then basicLines true rest
      else if isTextual char || char == '\n' then before [char] (basicLines false rest)
      else none

/-- A string over several lines between tripled apostrophes. -/
def literalLines : List Char → Option Read
  | [] => none
  | '\'' :: '\'' :: '\'' :: '\'' :: '\'' :: rest => some (['\'', '\''], rest)
  | '\'' :: '\'' :: '\'' :: '\'' :: rest => some (['\''], rest)
  | '\'' :: '\'' :: '\'' :: rest => some ([], rest)
  | '\r' :: '\n' :: rest => before ['\n'] (literalLines rest)
  | char :: rest =>
      if isTextual char || char == '\n' then before [char] (literalLines rest) else none

/-- The text without one line break at its start. -/
def dropLineBreak : List Char → List Char
  | '\n' :: rest => rest
  | '\r' :: '\n' :: rest => rest
  | text => text

/-- The quoted string of one line at the start of a text, if there is one. -/
def oneLine? : List Char → Option Read
  | '"' :: rest => basic rest
  | '\'' :: rest => literal rest
  | _ => none

/-- The quoted string of any kind at the start of a text, if there is one. -/
def quoted? : List Char → Option Read
  | '"' :: '"' :: '"' :: rest => basicLines false (dropLineBreak rest)
  | '\'' :: '\'' :: '\'' :: rest => literalLines (dropLineBreak rest)
  | text => oneLine? text

end Toml
end Baseline
