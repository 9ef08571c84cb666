import Baseline.FileAccess
import Baseline.SettingsFile

/-!
# Loading settings

Settings and expected mismatches come from files.  Where there is no file the
defaults hold; a file that cannot be read or understood is an error that names
it.
-/

namespace Baseline

variable {σ : Type} [FileAccess σ]

/-- All of the file at a path. -/
def readFile (system : σ) (path : String) : Except FileError String := do
  (FileAccess.readRest system (← FileAccess.openRead system path)).1

/-- What the text of the file at a path stands for, or a default if nothing is at
the path. -/
def loadOr
    {α : Type}
    (default : α)
    (read : String → Except SettingsError α)
    (system : σ)
    (path : String) :
    Except RunError α :=
  if FileAccess.present system path then
    ((readFile system path).mapError .unreadable >>= read).mapError (.settings path)
  else .ok default

/-- The settings in the file at a path. -/
def Settings.load (system : σ) (path : String) : Except RunError Settings :=
  loadOr {} Settings.ofToml system path

/-- The expected mismatches in the file at a path. -/
def Expected.load (system : σ) (path : String) : Except RunError Expected :=
  loadOr {} Expected.ofToml system path

end Baseline
