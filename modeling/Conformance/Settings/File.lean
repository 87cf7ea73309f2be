import Conformance.Error
import Conformance.Storage

/-!
# Settings in files

* **Loading** (`Settings.load`): a file that was asked for has to be there and to be usable.
* **Discovery** (`Settings.discover`): the settings file of a directory is loaded if it is a file;
  otherwise the default settings apply.
-/

namespace Conformance.Settings

variable {m : Type → Type} [Monad m] [Storage m] [Toml.Wording]

/-- The settings of the file at a path. -/
def load (path : Path) : m (Except Error Settings) := do
  match ← Storage.readText path with
  | .error cause => return .error (.settings (.unreadable cause) path)
  | .ok content => return (parse content).mapError (.settings · path)

/-- The settings of a directory. -/
def discover (dir : Path) : m (Except Error Settings) := do
  let candidate := dir.join ⟨settingsFile⟩
  if ← Storage.isFile candidate then load candidate
  else return .ok {}

end Conformance.Settings
