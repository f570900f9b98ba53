import ComponentCompiler.CommandLine.Arguments
import ComponentCompiler.Config.Environment
import ComponentCompiler.Config.Load
import ComponentCompiler.Loader
import ComponentCompiler.Surroundings

/-!
# The project of a command

A command runs in the project whose configuration is named, or else in the nearest one around the
working directory. The environment may override the configuration, and the settings of the
command line settle which events are shown.
-/

namespace ComponentCompiler.CommandLine

structure Project where
  root : Path
  config : Config
  deriving Inhabited

/-- Why a command fails. -/
inductive CommandError where
  | files (cause : FileError)
  | config (cause : ConfigError)
  | build (cause : BuildError)
  | cache (cause : CacheError)
  | unreadable (path : Path) (cause : FileError)
  | unwritable (path : Path) (cause : FileError)
  deriving DecidableEq, Repr

def CommandError.message : CommandError → String
  | files cause => cause.message
  | config cause => cause.message
  | build cause => cause.message
  | cache cause => cause.message
  | unreadable path cause => "failed to read " ++ path.text ++ ": " ++ cause.message
  | unwritable path cause => "failed to write " ++ path.text ++ ": " ++ cause.message

variable {m : Type → Type} [Monad m] [Files m] [Journal m] [Terminal m]

/-- The first of some directories with a configuration file. -/
def firstProject : List Path → m (Option Path)
  | [] => pure none
  | directory :: rest => do
    if ← Files.isFile (directory.join Config.fileName) then return some directory
    else firstProject rest

/-- The root of the project of a command and its configuration. -/
def locate (settings : Settings) (here : Path) : m (Path × Except ConfigError Config) := do
  match settings.config with
  | some file =>
    let path := here.join file
    return (path.parent?.getD here, ← Config.loadFile path)
  | none =>
    let root := (← firstProject here.ancestors).getD here
    return (root, ← Config.load root)

/-- The environment, as far as it matters for a configuration. -/
def readEnvironment : m Environment := do
  let values ← Config.variableNames.mapM fun name => do return (name, ← Terminal.variableValue name)
  return fun name => (Keyed.get? name values).join

/-- The log level in effect. -/
def shownLevel (settings : Settings) (level : LogLevel) : LogLevel :=
  if settings.verbose then .debug
  else if settings.quiet then .error
  else level

/-- Loads the project of a command and settles which events are shown. -/
def openProject (settings : Settings) : ExceptT CommandError m Project := do
  let here ← ExceptT.mk do return (← Terminal.workingDirectory).mapError CommandError.files
  let (root, loaded) ← ExceptT.lift (locate settings here)
  let config ← ExceptT.mk (pure (loaded.mapError CommandError.config))
  let environment ← ExceptT.lift readEnvironment
  let config ← ExceptT.mk (pure ((config.under environment).mapError CommandError.config))
  Journal.showLevel (shownLevel settings config.logLevel)
  Journal.debug "loaded project configuration" [("root", root.text)]
  return { root, config }

end ComponentCompiler.CommandLine
