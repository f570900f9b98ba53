import ComponentCompiler.Build.Module
import ComponentCompiler.Cache.Basic
import ComponentCompiler.Collaborator.Requests

/-!
# The loader

A loader turns component files into modules on behalf of a program that loads them. One component
is built at a time: what is asked for meanwhile is given back as it is. With caching, a module
that is still fresh is served, and any other is stored after it was built.
-/

namespace ComponentCompiler

/-- Where a loader keeps its cache. -/
structure Caching where
  root : Path
  directory : Path
  deriving DecidableEq, Repr

/-- What a loader knows between two requests. -/
structure LoaderState where
  /-- Whether a component is being built. -/
  busy : Bool := false
  /-- The cache, which is opened when it is first needed. -/
  cache : Option Cache := none
  deriving Inhabited

structure Loader (m : Type → Type) where
  builder : Builder m
  caching : Option Caching := none

namespace Loader

variable {m : Type → Type} [Monad m] [Files m] [Journal m] [MonadStateOf LoaderState m]

def isBusy : m Bool := return (← getThe LoaderState).busy

def setBusy (busy : Bool) : m Unit :=
  modifyThe LoaderState fun s => { s with busy }

def setCache (cache : Option Cache) : m Unit :=
  modifyThe LoaderState fun s => { s with cache }

/-- The cache; one that cannot be opened is tried again the next time. -/
def openCache (caching : Caching) (compilerVersion : String) : m (Except BuildError Cache) := do
  match (← getThe LoaderState).cache with
  | some cache => return .ok cache
  | none =>
    match ← Cache.openAt caching.root caching.directory compilerVersion with
    | .error e => return .error (.cache e)
    | .ok cache =>
      setCache (some cache)
      return .ok cache

/-- Builds a module and stores it. -/
def buildAndStore (loader : Loader m) (cache : Cache) (source : String) (file : Path) :
    m (Except BuildError String) := do
  match ← (loader.builder.build source file).run with
  | .error e => return .error e
  | .ok built =>
    let (result, cache) ← cache.put built.dependencies built.code
    setCache (some cache)
    match result with
    | .error e => return .error (.cache e)
    | .ok () => return .ok built.code

/-- The module of a component, when no other is being built. -/
def loadAlone (loader : Loader m) (source : String) (file : Path) :
    m (Except BuildError String) := do
  match loader.caching with
  | none => return (← (loader.builder.build source file).run).map BuiltModule.code
  | some caching =>
    match ← openCache caching loader.builder.version.raw with
    | .error e => return .error e
    | .ok cache =>
      match ← cache.get? file with
      | some code => return .ok code
      | none => loader.buildAndStore cache source file

/-- The module of a component from its text. -/
def load (loader : Loader m) (source : String) (file : Path) : m (Except BuildError String) := do
  if ← isBusy then
    Journal.debug "compile in progress, returning source unchanged" [fileField file]
    return .ok source
  else
    setBusy true
    let result ← loader.loadAlone source file
    setBusy false
    return result

/-- The caching that a configuration asks for. -/
def cachingOf (config : Config) (root : Path) : Option Caching :=
  if config.permanentCache then some ⟨root, config.cacheDirectory root⟩ else none

variable [Programs m]

/-- The transpiler that a configuration asks for: a program of its own, or the compiler. -/
def startTranspiler (config : Config) (root : Path) (compiler : Collaborator) :
    m (Except BuildError (Option (Transpiler m))) := do
  if !config.transpiles then
    return .ok none
  else
    match config.transpilerCommand with
    | none => return .ok (some compiler.transpiler)
    | some command =>
      match ← Collaborator.start command root with
      | .error e => return .error (.startTranspiler (String.intercalate " " command) e)
      | .ok own => return .ok (some own.transpiler)

/-- The loader of a project, with its collaborators started. -/
def ofConfig (config : Config) (root : Path) : ExceptT BuildError m (Loader m) := do
  let options ← ExceptT.mk (pure ((BuildOptions.ofConfig config).mapError BuildError.config))
  let compiler ← ExceptT.mk do
    return (← Collaborator.start config.compilerCommand root).mapError BuildError.start
  let builder ← ExceptT.mk (Builder.ofCompiler compiler.compiler options)
  let transpiler ← ExceptT.mk (startTranspiler config root compiler)
  return {
    builder := { builder with transpiler }
    caching := cachingOf config root }

end Loader
end ComponentCompiler
