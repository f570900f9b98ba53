import ComponentCompiler.Cache.Fingerprint
import ComponentCompiler.Journal
import ComponentCompiler.Json.Parser
import ComponentCompiler.Json.Printer

/-!
# The index of a cache

A cache directory holds an index of its modules: the fingerprint of each under its key, for one
version of the compiler. An index that another version of the compiler or of the index format
left behind is of no use.
-/

namespace ComponentCompiler

/-- Why a cache cannot be used. -/
inductive CacheError where
  | files (path : Path) (cause : FileError)
  deriving DecidableEq, Repr

def CacheError.message : CacheError → String
  | files path cause => "cache I/O error at " ++ path.text ++ ": " ++ cause.message

/-- Blames a failed operation on a path. -/
def blame (path : Path) : Except FileError α → Except CacheError α
  | .ok value => .ok value
  | .error cause => .error (.files path cause)

structure CacheIndex where
  /-- The version of the format. -/
  version : Nat
  compilerVersion : String
  /-- The fingerprints, sorted by key. -/
  entries : List (String × Fingerprint) := []
  deriving DecidableEq, Repr, Inhabited

namespace CacheIndex

/-- The name of the file in a cache directory that holds the index. -/
def fileName : Path := ⟨"revue.json"⟩

def formatVersion : Nat := 2

def empty (compilerVersion : String) : CacheIndex := ⟨formatVersion, compilerVersion, []⟩

def serves (index : CacheIndex) (compilerVersion : String) : Bool :=
  index.version == formatVersion && index.compilerVersion == compilerVersion

def shape : Json.Shape :=
  .record [("version", .whole), ("compilerVersion", .whole),
    ("entries", .entries Fingerprint.shape)]

/-- The fingerprints under their keys; of a repeated key the last one counts. -/
def entriesOf? (value : Json) : Option (List (String × Fingerprint)) := do
  let members ← value.asObject?
  let entries ← members.mapM fun member => (Fingerprint.ofJson? member.2).map (member.1, ·)
  return Keyed.sorted entries

def ofJson? (value : Json) : Option CacheIndex := do
  let members ← value.record? shape 3
  return {
    version := ← members.required? "version" (Json.asNatural? (2 ^ 32))
    compilerVersion := ← members.required? "compilerVersion" Json.asText?
    entries := ← members.required? "entries" entriesOf? }

instance : Json.Readable CacheIndex := ⟨shape, ofJson?⟩

def toJson (index : CacheIndex) : Json :=
  .object [("version", .integer index.version), ("compilerVersion", .text index.compilerVersion),
    ("entries", .object (index.entries.map fun entry => (entry.1, entry.2.toJson)))]

/-- The document of an index. -/
def document (index : CacheIndex) : String := index.toJson.pretty

variable {m : Type → Type} [Monad m] [Files m] [Journal m]

/-- The index in a cache directory, if there is one that can be read. -/
def load (directory : Path) : m (Option CacheIndex) := do
  let path := directory.join fileName
  match ← Files.readText path with
  | .error _ => return none
  | .ok document =>
    match (Json.read? document : Option CacheIndex) with
    | some index => return some index
    | none =>
      Journal.error "failed to read cache metadata: malformed document" [("path", path.text)]
      return none

/-- Writes an index into a cache directory, which need not exist before. -/
def save (index : CacheIndex) (directory : Path) : m (Except CacheError Unit) := do
  match ← Files.makeDirectories directory with
  | .error cause => return .error (.files directory cause)
  | .ok () =>
    let path := directory.join fileName
    return blame path (← Files.writeText path index.document)

end CacheIndex
end ComponentCompiler
