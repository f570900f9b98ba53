import ComponentCompiler.Files
import ComponentCompiler.Json.Record

/-!
# Fingerprints

A module depends on its component and on the external files that hold blocks of it. The
fingerprint of a module tells when these files were last modified. It names external files as
they are stored relative to the root, so that it can be taken again from what it says.
-/

namespace ComponentCompiler

/-- The files that a module is made from. -/
structure Dependencies where
  component : Path
  externalScript : Option Path := none
  externalTemplate : Option Path := none
  deriving DecidableEq, Repr, Inhabited

/-- When a file was last modified, in milliseconds. -/
def modifiedAt {m : Type → Type} [Monad m] [Files m] (path : Path) : m (Option Binary64) := do
  return (← Files.modified path).bind Timestamp.milliseconds?

/-- An external file in a fingerprint. -/
structure ExternalStamp where
  /-- The stored form of the path. -/
  path : String
  modified : Binary64
  deriving DecidableEq, Repr, Inhabited

structure Fingerprint where
  modified : Option Binary64 := none
  externalScript : Option ExternalStamp := none
  externalTemplate : Option ExternalStamp := none
  deriving DecidableEq, Repr, Inhabited

namespace ExternalStamp

def same (a b : ExternalStamp) : Bool := a.path == b.path && a.modified.same b.modified

/-- The stamp of an external file; a file that was never modified has none. -/
def take {m : Type → Type} [Monad m] [Files m] (root : Path) :
    Option Path → m (Option ExternalStamp)
  | none => pure none
  | some file => do
    let path := root.join file
    return (← modifiedAt path).map fun modified => ⟨root.stored path, modified⟩

end ExternalStamp

/-- Whether two optional values are both absent or both present and alike. -/
def sameOption (same : α → α → Bool) : Option α → Option α → Bool
  | none, none => true
  | some a, some b => same a b
  | _, _ => false

namespace Fingerprint

/-- Whether two fingerprints tell the same. -/
def same (a b : Fingerprint) : Bool :=
  sameOption Binary64.same a.modified b.modified &&
    sameOption ExternalStamp.same a.externalScript b.externalScript &&
    sameOption ExternalStamp.same a.externalTemplate b.externalTemplate

/-- Takes the fingerprint of a module with the given dependencies. -/
def take {m : Type → Type} [Monad m] [Files m] (root : Path) (files : Dependencies) :
    m Fingerprint := do
  let modified ← modifiedAt (root.join files.component)
  let externalScript ← ExternalStamp.take root files.externalScript
  let externalTemplate ← ExternalStamp.take root files.externalTemplate
  return ⟨modified, externalScript, externalTemplate⟩

/-- The dependencies that a fingerprint tells of. -/
def dependencies (f : Fingerprint) (root component : Path) : Dependencies where
  component := component
  externalScript := f.externalScript.map fun stamp => root.join ⟨stamp.path⟩
  externalTemplate := f.externalTemplate.map fun stamp => root.join ⟨stamp.path⟩

end Fingerprint

def ExternalStamp.shape : Json.Shape := .plain ["path", "mtimeMs"]

def ExternalStamp.ofJson? (value : Json) : Option ExternalStamp := do
  let members ← value.record? shape 2
  return ⟨← members.required? "path" Json.asText?, ← members.required? "mtimeMs" Json.asNumber?⟩

def ExternalStamp.toJson (stamp : ExternalStamp) : Json :=
  .object [("path", .text stamp.path), ("mtimeMs", .float stamp.modified)]

namespace Fingerprint

def shape : Json.Shape :=
  .record [("mtimeMs", .whole), ("externalScript", ExternalStamp.shape),
    ("externalTemplate", ExternalStamp.shape)]

def ofJson? (value : Json) : Option Fingerprint := do
  let members ← value.record? shape 3
  return {
    modified := ← members.optional? "mtimeMs" Json.asNumber?
    externalScript := ← members.optional? "externalScript" ExternalStamp.ofJson?
    externalTemplate := ← members.optional? "externalTemplate" ExternalStamp.ofJson? }

instance : Json.Readable Fingerprint := ⟨shape, ofJson?⟩

def toJson (f : Fingerprint) : Json :=
  .object [("mtimeMs", Json.ofOption (f.modified.map .float)),
    ("externalScript", Json.ofOption (f.externalScript.map ExternalStamp.toJson)),
    ("externalTemplate", Json.ofOption (f.externalTemplate.map ExternalStamp.toJson))]

end Fingerprint
end ComponentCompiler
