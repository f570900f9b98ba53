import ComponentCompiler.Cache.Index

/-!
# Stored modules

A compiled module is kept as a file below the cache directory, at the names of its key. Parts of
a key that would lead out of the directory are left out.
-/

namespace ComponentCompiler

/-- The directory in which modules are stored. -/
structure ModuleStore where
  directory : Path
  deriving DecidableEq, Repr, Inhabited

namespace ModuleStore

/-- Whether a part of a key is a name in the path of its module: not empty, not two dots, and
not the name of a drive. -/
def keepsPart (part : List Char) : Bool :=
  !part.isEmpty && part != ['.', '.'] && part.getLast? != some ':'

/-- The file of the module with a key. -/
def path (store : ModuleStore) (key : String) : Path :=
  ((Text.pieces '/' key.toList).filter keepsPart).foldl
    (fun path part => path.join ⟨String.ofList part⟩) store.directory

variable {m : Type → Type} [Monad m] [Files m]

/-- Makes the directories above a path. -/
def makeParent (path : Path) : m (Except CacheError Unit) :=
  match path.parent? with
  | none => pure (.ok ())
  | some parent => do return blame parent (← Files.makeDirectories parent)

/-- Stores a module; the result is its file. -/
def write (store : ModuleStore) (key content : String) : m (Except CacheError Path) := do
  let path := store.path key
  match ← makeParent path with
  | .error e => return .error e
  | .ok () => return (blame path (← Files.writeText path content)).map fun _ => path

def read? (store : ModuleStore) (key : String) : m (Option String) := do
  return (← Files.readText (store.path key)).toOption

/-- Removes the given entries one after the other; the result is their number. -/
def removeAll : List Path → m (Except CacheError Nat)
  | [] => pure (.ok 0)
  | path :: rest => do
    match ← Files.remove path with
    | .error cause => return .error (.files path cause)
    | .ok () => return (← removeAll rest).map (· + 1)

/-- Empties the directory; the result is how many entries it had. -/
def clear (store : ModuleStore) : m (Except CacheError Nat) := do
  match ← Files.entries store.directory with
  | .error .notFound => return .ok 0
  | .error cause => return .error (.files store.directory cause)
  | .ok paths => removeAll paths

end ModuleStore
end ComponentCompiler
