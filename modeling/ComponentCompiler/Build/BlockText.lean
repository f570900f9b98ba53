import ComponentCompiler.Build.Error

/-!
# The texts of blocks

The text of a block stands in the component or in an external file, which is found from the
directory of the component.
-/

namespace ComponentCompiler

/-- The text of a block, and the external file that it was read from. -/
structure BlockText where
  content : String
  external : Option Path := none
  deriving DecidableEq, Repr, Inhabited

namespace BlockText

variable {m : Type → Type} [Monad m] [Files m] [Journal m]

/-- The external file that a block of a component names. -/
def externalPath (component : Path) (src : String) : Path :=
  (component.parent?.getD ⟨""⟩).join ⟨src⟩

/-- The text of a block with the given content or source. -/
def resolve (kind : BlockKind) (content : String) (src : Option String) (component : Path) :
    m (Except BuildError BlockText) := do
  match src with
  | none =>
    Journal.info ("get " ++ kind.name ++ " content from inline block") [fileField component]
    return .ok { content }
  | some src =>
    let path := externalPath component src
    Journal.info ("get " ++ kind.name ++ " content from external file '" ++ path.text ++ "'")
      [fileField component]
    match ← Files.readText path with
    | .error cause => return .error (.block kind path cause)
    | .ok content => return .ok { content, external := some path }

def ofBlock (block : Block) (component : Path) : m (Except BuildError BlockText) :=
  resolve block.kind block.content block.src component

def ofScript (script : CompiledScript) (component : Path) : m (Except BuildError BlockText) :=
  resolve .script script.content script.src component

end BlockText
end ComponentCompiler
