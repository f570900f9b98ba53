import ComponentCompiler.Cache.Modules

/-!
# The cache

A cache keeps the modules of the components of a project together with an index of their
fingerprints. A module is served as long as the files that it was made from have the modification
times of its fingerprint.
-/

namespace ComponentCompiler

structure Cache where
  root : Path
  store : ModuleStore
  compilerVersion : String
  index : CacheIndex
  deriving Inhabited

/-- Whether the module with a key can still be served. -/
structure ModuleStatus where
  key : String
  fresh : Bool
  deriving DecidableEq, Repr

namespace Cache

variable {m : Type → Type} [Monad m] [Files m] [Journal m]

def directory (cache : Cache) : Path := cache.store.directory

/-- Empties a directory and puts an empty index into it. -/
def reset (directory : Path) (compilerVersion : String) : m (Except CacheError CacheIndex) := do
  Journal.info "cache metadata is outdated, cleaning cache"
  match ← (ModuleStore.mk directory).clear with
  | .error e => return .error e
  | .ok _ =>
    let index := CacheIndex.empty compilerVersion
    return (← index.save directory).map fun _ => index

/-- The index to start with: the one in the directory if it is compatible. A directory with any
other index is emptied. -/
def openIndex (directory : Path) (compilerVersion : String) : m (Except CacheError CacheIndex) := do
  let indexExists ← Files.pathExists (directory.join CacheIndex.fileName)
  let loaded ← CacheIndex.load directory
  match loaded.filter (·.serves compilerVersion) with
  | some index => return .ok index
  | none =>
    if indexExists then reset directory compilerVersion
    else return .ok (CacheIndex.empty compilerVersion)

/-- Opens the cache in a directory. -/
def openAt (root directory : Path) (compilerVersion : String) : m (Except CacheError Cache) := do
  Journal.info "initializing permanent cache" [("cache_dir", directory.text)]
  return (← openIndex directory compilerVersion).map fun index =>
    { root, store := ⟨directory⟩, compilerVersion, index }

/-- The key of a file. -/
def keyOf (cache : Cache) (file : Path) : String := cache.root.stored file

/-- Whether the fingerprint of a file is in the index and still tells the truth. -/
def isFresh (cache : Cache) (file : Path) : m Bool := do
  match Keyed.get? (cache.keyOf file) cache.index.entries with
  | none => return false
  | some fingerprint =>
    let now ← Fingerprint.take cache.root (fingerprint.dependencies cache.root file)
    return now.same fingerprint

/-- The stored module of a file, if it is fresh and there. -/
def get? (cache : Cache) (file : Path) : m (Option String) := do
  if ← cache.isFresh file then
    let key := cache.keyOf file
    let content ← cache.store.read? key
    if content.isSome then
      Journal.info "cached compiled file found"
        [fileField file, ("cached", (cache.store.path key).text)]
    return content
  else
    Journal.info "cached compiled file not found" [fileField file]
    return none

/-- Takes the fingerprint of a stored module and writes the index with it. -/
def stamp (cache : Cache) (files : Dependencies) : m (Except CacheError Unit × Cache) := do
  let fingerprint ← Fingerprint.take cache.root files
  let entries := Keyed.insert (cache.keyOf files.component) fingerprint cache.index.entries
  let index := { cache.index with entries }
  return (← index.save cache.directory, { cache with index })

/-- Stores a module: first its text, then its fingerprint in the index. -/
def put (cache : Cache) (files : Dependencies) (content : String) :
    m (Except CacheError Unit × Cache) := do
  match ← cache.store.write (cache.keyOf files.component) content with
  | .error e => return (.error e, cache)
  | .ok path =>
    Journal.info "wrote compiled file to cache"
      [fileField files.component, ("cached", path.text)]
    cache.stamp files

/-- Empties the cache; the result is how many entries the directory had. -/
def clean (cache : Cache) : m (Except CacheError Nat × Cache) := do
  match ← cache.store.clear with
  | .error e => return (.error e, cache)
  | .ok removed =>
    return (.ok removed, { cache with index := CacheIndex.empty cache.compilerVersion })

/-- The status of every module in the index, in the order of the keys. -/
def status (cache : Cache) : m (List ModuleStatus) :=
  cache.index.entries.mapM fun entry => do
    return ⟨entry.1, ← cache.isFresh (cache.root.join ⟨entry.1⟩)⟩

end Cache
end ComponentCompiler
