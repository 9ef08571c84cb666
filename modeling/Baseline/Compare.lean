import Baseline.FileAccess
import Baseline.Json.Canonical
import Baseline.Outcome
import Baseline.Parser
import Baseline.Path
import Baseline.RunError
import Baseline.Text.LineBreaks

/-!
# Comparing renderings with references

Each source is parsed, the result is rendered canonically and compared with the
reference that lies beside the source; line breaks do not count.  A missing or
empty reference is created.  A reference that differs is left alone, and the
rendering goes to the actual artifact instead.
-/

namespace Baseline
namespace Compare

variable {σ : Type} [FileAccess σ]

/-- The lines up to the first empty one, joined; at most `fuel` of them. -/
def joinLines (system : σ) : Nat → FileAccess.Reader σ → Except FileError String
  | 0, _ => return ""
  | fuel + 1, reader => do
      let (line, next) := FileAccess.readLine system reader
      let line ← line
      if line.isEmpty then return ""
      return line ++ (← joinLines system fuel next)

/-- The text of an open file, as the mode reads it. -/
def readOpened
    (system : σ)
    (mode : ReadMode)
    (reader : FileAccess.Reader σ) :
    Except FileError String :=
  match mode with
  | .verbatim => (FileAccess.readRest system reader).1
  | .legacyLines => joinLines system (FileAccess.remaining system reader + 1) reader

/-- The text of the file at a path, as the mode reads it. -/
def readText (system : σ) (mode : ReadMode) (path : String) : Except FileError String := do
  let reader ← FileAccess.openRead system path
  let text ← readOpened system mode reader
  FileAccess.closeReader system reader
  return text

/-- The text of a source; empty if there is none or it cannot be read. -/
def readSource (system : σ) (mode : ReadMode) (path : String) : String :=
  if FileAccess.present system path then
    match readText system mode path with
    | .ok text => text
    | .error _ => ""
  else ""

/-- The text of a reference without its line breaks, if anything is left of
it. -/
def readReference (system : σ) (mode : ReadMode) (path : String) :
    Except RunError (Option String) :=
  if FileAccess.present system path then
    match readText system mode path with
    | .ok text =>
        let stripped := Text.stripLineBreaks text
        .ok (if stripped.isEmpty then none else some stripped)
    | .error error => .error (.file path error)
  else .ok none

/-- Write texts to an open file and release it, also when writing fails. -/
def writeAll (writer : FileAccess.Writer σ) : List String → FileAction σ Unit
  | [] => FileAccess.closeWriter writer
  | text :: rest => do
      let next ← tryCatch (FileAccess.write writer text) fun error => do
        ExceptT.lift (FileAccess.discardWriter writer)
        throw error
      writeAll next rest

/-- Write a rendering and a line feed to the file at a path. -/
def writeArtifact (path rendering : String) : RunAction σ Unit :=
  ExceptT.adapt (RunError.file path) <| do
    let writer ← FileAccess.openWrite (σ := σ) path
    writeAll writer [rendering, "\n"]

/-- Refuse extensions that clash. -/
def checkExtensions (extensions : Extensions) : Except RunError Unit :=
  match extensions.clash? with
  | some clash => .error (.settings "comparator options" (.clash clash))
  | none => .ok ()

/-- Remove the actual artifact of an earlier run, if there is one. -/
def removeStale (path : String) : RunAction σ Unit := do
  if FileAccess.present (← get) path then
    ExceptT.adapt (RunError.file path) (FileAccess.removeFile path)

/-- The canonical rendering of a source text. -/
def renderSource (parser : Parser) (indentWidth : Nat) (path text : String) :
    Except RunError String :=
  match parser.parse text with
  | .value value => .ok (value.canonicalize indentWidth)
  | .refused failure => .error (.parse path failure)
  | .unserializable reason => .error (.serialize path reason)

/-- Compare the rendering of a source with its reference. -/
def settle
    (referencePath actualPath rendering : String)
    (reference : Option String) :
    RunAction σ Outcome := do
  match reference with
  | none =>
      writeArtifact referencePath rendering
      return .created referencePath
  | some expected =>
      if expected = Text.stripLineBreaks rendering then return .passed
      writeArtifact actualPath rendering
      return .mismatched actualPath

/-- Compare one source. -/
def compareFile (parser : Parser) (options : CompareOptions) (path : String) :
    RunAction σ Outcome := do
  checkExtensions options.extensions
  let artifact := Path.artifact path options.extensions.source
  let referencePath := artifact options.extensions.reference
  let actualPath := artifact options.extensions.actual
  if options.cleanStaleActuals then removeStale actualPath
  let text := readSource (← get) options.readMode path
  if text.isEmpty then return .skipped
  let rendering ← renderSource parser options.indentWidth path text
  let reference ← readReference (← get) options.readMode referencePath
  settle referencePath actualPath rendering reference

/-- What became of comparing some sources: the records of those that were
compared, and the error that ended the run early, if one did. -/
structure Progress where
  /-- The records of the sources compared. -/
  records : List FileRecord
  /-- The error that ended the run early. -/
  error? : Option RunError

/-- The report of a run that was not ended early. -/
def Progress.report (progress : Progress) : Except RunError Report :=
  match progress.error? with
  | none => .ok ⟨progress.records⟩
  | some error => .error error

/-- Compare sources one after the other until one of them ends the run. -/
def compareAll (parser : Parser) (options : CompareOptions) : List String → StateM σ Progress
  | [] => return ⟨[], none⟩
  | path :: rest => do
      match ← (compareFile parser options path).run with
      | .error error => return ⟨[], some error⟩
      | .ok outcome =>
          let progress ← compareAll parser options rest
          return { progress with records := ⟨path, outcome⟩ :: progress.records }

end Compare
end Baseline
