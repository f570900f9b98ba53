import ComponentCompiler.Config.Document
import ComponentCompiler.Journal
import ComponentCompiler.Files

/-!
# Loading configurations

The configuration of a project is a file in its root. A project without one has the defaults.
-/

namespace ComponentCompiler.Config

variable {m : Type → Type} [Monad m] [Files m] [Journal m]

/-- The name of the configuration file of a project. -/
def fileName : Path := ⟨"revue.toml"⟩

/-- The configuration in a file. -/
def loadFile (path : Path) : m (Except ConfigError Config) := do
  match ← Files.readText path with
  | .error cause => return .error (.unreadable path cause.message)
  | .ok document => return parse document

/-- The configuration of the project with a root. -/
def load (root : Path) : m (Except ConfigError Config) := do
  let path := root.join fileName
  if ← Files.isFile path then
    loadFile path
  else
    Journal.debug "no configuration file, using defaults" [("path", path.text)]
    return .ok {}

end ComponentCompiler.Config
