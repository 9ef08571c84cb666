import Baseline.Text.Pieces

/-!
# Paths as text

Files are named by texts whose parts are set off by separators.  These functions
look at the text only: at the extension of the last part, at the names of the
artifacts that lie beside a source file, and at the directory around a file.
-/

namespace Baseline
namespace Path

/-- Slash and backslash set off the parts of a path. -/
def isSeparator (char : Char) : Bool :=
  char == '/' || char == '\\'

/-- The characters after the last separator. -/
def lastPart (path : List Char) : List Char :=
  (path.reverse.takeWhile fun char => !isSeparator char).reverse

/-- A dot and the extension. -/
def dotted (extension : String) : List Char :=
  '.' :: extension.toList

/-- The last part of the path ends in the extension and does not start with
it. -/
def hasExtension (path extension : String) : Bool :=
  let name := lastPart path.toList
  (dotted extension).isSuffixOf name && (dotted extension).length < name.length

/-- The path of a directory entry. -/
def join (directory separator entry : String) : String :=
  if separator.toList.isSuffixOf directory.toList then directory ++ entry
  else directory ++ separator ++ entry

/-- The path without the extension, or the whole path if it has another one. -/
def stem (path extension : String) : List Char :=
  if (dotted extension).isSuffixOf path.toList then
    path.toList.take (path.toList.length - (dotted extension).length)
  else path.toList

/-- The path of the artifact that lies beside a source file: the source
extension gives way to the one of the artifact. -/
def artifact (source sourceExtension extension : String) : String :=
  String.ofList (stem source sourceExtension ++ dotted extension)

/-- A part between two slashes that leads nowhere. -/
def isIdle (part : List Char) : Bool :=
  part = [] ∨ part = ['.']

/-- A slash or a single dot that a path starts with. -/
def anchor (path : List Char) : List Char :=
  match path with
  | '/' :: _ => ['/']
  | ['.'] | '.' :: '/' :: _ => ['.']
  | _ => []

/-- The path of the directory around a file, without idle parts at its end; the
root and the empty path have none. -/
def enclosing? (path : String) : Option String :=
  let start := anchor path.toList
  let body := path.toList.drop start.length
  match (Text.pieces '/' body).reverse.dropWhile isIdle with
  | [] => if start = ['.'] then some "" else none
  | _ :: around =>
      let parts := (around.dropWhile isIdle).reverse
      some (String.ofList (start ++ ['/'].intercalate parts))

/-- A path that is meant from a directory; an absolute path is meant from
nowhere. -/
def within (directory path : String) : String :=
  if path.toList.head? = some '/' ∨ directory.isEmpty then path
  else join directory "/" path

/-- A path that is meant from the directory around a file. -/
def beside (file path : String) : String :=
  match enclosing? file with
  | some directory => within directory path
  | none => path

end Path
end Baseline
