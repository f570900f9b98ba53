import ComponentCompiler.CommandLine.Project

/-!
# Commands

What the commands do: build a module, look into a cache or empty it, and print the configuration
in effect. A failure is one line, after a word that says so.
-/

namespace ComponentCompiler.CommandLine

variable {m : Type → Type} [Monad m] [Files m] [Journal m] [Terminal m] [Programs m]
variable [MonadStateOf LoaderState m]

/-- Writes a module to a file, in directories that are made for it. -/
def writeModule (path : Path) (code : String) : ExceptT CommandError m Unit := do
  match path.parent?.filter (·.text != "") with
  | none => pure ()
  | some parent =>
    ExceptT.mk do return (← Files.makeDirectories parent).mapError CommandError.files
  ExceptT.mk do return (← Files.writeText path code).mapError (CommandError.unwritable path)
  Journal.info "wrote compiled module" [("path", path.text)]

/-- Builds the module of a component, through the cache if there is one. -/
def compile (settings : Settings) (file : Path) (output : Option Path) :
    ExceptT CommandError m Unit := do
  let project ← openProject settings
  let here ← ExceptT.mk do return (← Terminal.workingDirectory).mapError CommandError.files
  let path := here.join file
  let source ← ExceptT.mk do
    return (← Files.readText path).mapError (CommandError.unreadable path)
  let loader ← ExceptT.mk do
    return (← (Loader.ofConfig project.config project.root).run).mapError CommandError.build
  let code ← ExceptT.mk do return (← loader.load source path).mapError CommandError.build
  match output with
  | some path => writeModule path code
  | none => ExceptT.lift (Terminal.print code)

/-- The cache of a project, if its directory has an index. -/
def openStored (root directory : Path) : m (Except CacheError (Option Cache)) := do
  match ← CacheIndex.load directory with
  | none => return .ok none
  | some index => return (← Cache.openAt root directory index.compilerVersion).map some

/-- The lines about a cache and its modules. -/
def statusText (cache : Cache) (entries : List ModuleStatus) : String :=
  "cache: " ++ cache.directory.text ++ "\ncompiler version: " ++ cache.index.compilerVersion ++
    "\nentries: " ++ toString entries.length ++ "\n" ++
    String.join (entries.map fun entry =>
      "  " ++ (if entry.fresh then "fresh" else "stale") ++ " " ++ entry.key ++ "\n")

/-- Removes everything from a cache directory; the result is how many entries it had. -/
def cleanCache (directory : Path) : Option Cache → m (Except CacheError Nat)
  | some cache => do return (← cache.clean).1
  | none => (ModuleStore.mk directory).clear

def cacheCommand (settings : Settings) (action : CacheTask) : ExceptT CommandError m Unit := do
  let project ← openProject settings
  let directory := project.config.cacheDirectory project.root
  let opened ← ExceptT.mk do
    return (← openStored project.root directory).mapError CommandError.cache
  match action, opened with
  | .status, none => ExceptT.lift (Terminal.print ("no cache at " ++ directory.text ++ "\n"))
  | .status, some cache =>
    let entries ← ExceptT.lift cache.status
    ExceptT.lift (Terminal.print (statusText cache entries))
  | .clean, opened =>
    let removed ← ExceptT.mk do
      return (← cleanCache directory opened).mapError CommandError.cache
    ExceptT.lift (Terminal.print
      ("removed " ++ toString removed ++ " entries from " ++ directory.text ++ "\n"))

def configCommand (settings : Settings) : ExceptT CommandError m Unit := do
  let project ← openProject settings
  ExceptT.lift (Terminal.print ("# project root: " ++ project.root.text ++ "\n"))
  ExceptT.lift (Terminal.print project.config.document)

def runCommand (settings : Settings) : Command → ExceptT CommandError m Unit
  | .compile file output => compile settings file output
  | .cache action => cacheCommand settings action
  | .config => configCommand settings

/-- What the program is called and which version it has. -/
def versionText : String := "revue 0.1.0\n"

def helpText : String :=
  "Revue component compiler\n\n" ++
  "Usage: revue [OPTIONS] <COMMAND>\n\n" ++
  "Commands:\n" ++
  "  compile  Compile one component file and print the module\n" ++
  "  cache    Inspect or empty the persistent cache\n" ++
  "  config   Print the effective configuration\n" ++
  "  help     Print this message\n"

/-- Runs a command line; the result is the exit code. -/
def run (arguments : List String) : m Nat := do
  match request? arguments with
  | none =>
    Terminal.complain "error: these arguments cannot be used; try 'revue --help'"
    return 2
  | some .help =>
    Terminal.print helpText
    return 0
  | some .version =>
    Terminal.print versionText
    return 0
  | some (.run settings command) =>
    match ← (runCommand settings command).run with
    | .ok () => return 0
    | .error e =>
      Terminal.complain ("error: " ++ e.message)
      return 1

end ComponentCompiler.CommandLine
