import Baseline.FileError
import Baseline.ParseFailure
import Baseline.Settings

/-!
# Run errors

The errors that end a run.  A rendering that differs from its reference is not
one of them.
-/

namespace Baseline

/-- Why settings cannot be used. -/
inductive SettingsError
  /-- The file cannot be read. -/
  | unreadable (error : FileError)
  /-- The text is not what the file should hold. -/
  | malformed
  /-- Two roles share an extension. -/
  | clash (pair : ExtensionClash)
  /-- Any other reason, in words. -/
  | stated (reason : String)
  deriving DecidableEq, Repr

/-- The reason in words; what is wrong with a malformed text is not told. -/
def SettingsError.message : SettingsError → String
  | .unreadable error => error.message
  | .malformed => "TOML parse error"
  | .clash pair => pair.message
  | .stated reason => reason

/-- Why a run ends early. -/
inductive RunError
  /-- A file operation failed. -/
  | file (path : String) (error : FileError)
  /-- A source was refused by the parser. -/
  | parse (path : String) (failure : ParseFailure)
  /-- What the parser made of a source has no JSON form. -/
  | serialize (path : String) (reason : String)
  /-- Settings cannot be used. -/
  | settings (path : String) (error : SettingsError)
  deriving DecidableEq, Repr

/-- The error in words. -/
def RunError.message : RunError → String
  | .file path error => s!"i/o error at {path}: {error.message}"
  | .parse path failure => s!"parse error in {path}: {failure.message}"
  | .serialize path reason => s!"failed to serialize parse result of {path}: {reason}"
  | .settings path error => s!"failed to load config: {path}: {error.message}"

/-- An action of a run: it may end the run, and the state is kept in any
case. -/
abbrev RunAction (σ : Type) := ExceptT RunError (StateM σ)

end Baseline
