/-!
# Settings of a run

Every setting has a default, so a run needs none.  The extensions of sources,
references and actual artifacts must differ, or one file would stand for
another.
-/

namespace Baseline

/-- How much of a file is read. -/
inductive ReadMode
  /-- The whole text, line breaks included. -/
  | verbatim
  /-- The lines up to the first empty one, without their breaks. -/
  | legacyLines
  deriving DecidableEq, Repr

namespace ReadMode

/-- The name of the mode in a settings file. -/
def name : ReadMode → String
  | .verbatim => "verbatim"
  | .legacyLines => "legacy-lines"

/-- The mode with a name. -/
def ofName? (name : String) : Option ReadMode :=
  if name = "verbatim" then some .verbatim
  else if name = "legacy-lines" then some .legacyLines
  else none

theorem ofName?_name (mode : ReadMode) : ofName? mode.name = some mode := by
  cases mode <;> rfl

end ReadMode

/-- What a file of a run is for. -/
inductive FileRole
  /-- A text to parse. -/
  | source
  /-- A recorded rendering. -/
  | reference
  /-- A rendering that differs from the recorded one. -/
  | actual
  deriving DecidableEq, Repr

/-- The name of the setting that holds the extension of a role. -/
def FileRole.settingName : FileRole → String
  | .source => "source_extension"
  | .reference => "reference_extension"
  | .actual => "actual_extension"

/-- The extensions of the three roles, without their dots. -/
structure Extensions where
  /-- The extension of sources. -/
  source : String := "js"
  /-- The extension of references. -/
  reference : String := "tree"
  /-- The extension of actual artifacts. -/
  actual : String := "actual"
  deriving DecidableEq, Repr

/-- Two roles with one extension. -/
structure ExtensionClash where
  /-- The first role. -/
  left : FileRole
  /-- The second role. -/
  right : FileRole
  /-- Their extension. -/
  extension : String
  deriving DecidableEq, Repr

/-- The clash in words. -/
def ExtensionClash.message (clash : ExtensionClash) : String :=
  s!"{clash.left.settingName} and {clash.right.settingName} are both `{clash.extension}`"

namespace Extensions

/-- The first pair of roles that share an extension. -/
def clash? (extensions : Extensions) : Option ExtensionClash :=
  if extensions.source = extensions.reference then
    some ⟨.source, .reference, extensions.source⟩
  else if extensions.source = extensions.actual then
    some ⟨.source, .actual, extensions.source⟩
  else if extensions.reference = extensions.actual then
    some ⟨.reference, .actual, extensions.reference⟩
  else none

/-- There is no clash exactly when the extensions are pairwise different. -/
theorem clash?_eq_none_iff (extensions : Extensions) :
    extensions.clash? = none ↔
      extensions.source ≠ extensions.reference ∧
        extensions.source ≠ extensions.actual ∧
          extensions.reference ≠ extensions.actual := by
  unfold clash?
  split
  · simp_all
  · split
    · simp_all
    · split <;> simp_all

end Extensions

/-- What a scan for sources looks for. -/
structure ScanOptions where
  /-- The extension of sources. -/
  sourceExtension : String
  /-- Directories deeper than this below the root are not entered. -/
  maxDepth : Nat := 64
  /-- Directories that were entered before are not entered again. -/
  detectCycles : Bool := true
  deriving DecidableEq, Repr

/-- How sources are compared with their references. -/
structure CompareOptions where
  /-- The extensions of the files. -/
  extensions : Extensions := {}
  /-- Spaces for each level of a rendering. -/
  indentWidth : Nat := 4
  /-- How sources and references are read. -/
  readMode : ReadMode := .verbatim
  /-- The actual artifact of an earlier run is removed first. -/
  cleanStaleActuals : Bool := true
  deriving DecidableEq, Repr

/-- The settings of a run. -/
structure Settings where
  /-- The directory or the file to scan. -/
  root : String := "tests"
  /-- The extensions of the files. -/
  extensions : Extensions := {}
  /-- Spaces for each level of a rendering. -/
  indentWidth : Nat := 4
  /-- How sources and references are read. -/
  readMode : ReadMode := .verbatim
  /-- The actual artifact of an earlier run is removed first. -/
  cleanStaleActuals : Bool := true
  /-- Directories deeper than this below the root are not entered. -/
  maxDepth : Nat := 64
  /-- Directories that were entered before are not entered again. -/
  detectCycles : Bool := true
  /-- The file that lists the expected mismatches. -/
  expectedFailures : Option String := none
  deriving DecidableEq, Repr

namespace Settings

/-- The part of the settings that a scan uses. -/
def scanOptions (settings : Settings) : ScanOptions where
  sourceExtension := settings.extensions.source
  maxDepth := settings.maxDepth
  detectCycles := settings.detectCycles

/-- The part of the settings that comparisons use. -/
def compareOptions (settings : Settings) : CompareOptions where
  extensions := settings.extensions
  indentWidth := settings.indentWidth
  readMode := settings.readMode
  cleanStaleActuals := settings.cleanStaleActuals

end Settings
end Baseline
