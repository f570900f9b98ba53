import ComponentCompiler.Build.Basic
import ComponentCompiler.Module.Format
import ComponentCompiler.SourceMap.Merge

/-!
# The script of a module

The compiled script is read, brought together with a plain script beside setup code, transpiled
and put into the module format. Its map leads back to the component, or to the external file if
the script is taken from there as it stands.
-/

namespace ComponentCompiler

structure ScriptPart where
  code : String := ""
  map : Option SourceMap := none
  external : Option Path := none
  /-- Whether the script renders by itself. -/
  hasRender : Bool := false
  /-- Whether the script declares a functional component. -/
  functional : Bool := false
  deriving Inhabited

namespace ScriptPart

/-- The code of a script before it is transpiled. -/
def untranspiled (descriptor : Descriptor) (compiled : CompiledScript) (content : String)
    (format : ModuleForm) : String :=
  if compiled.setup || descriptor.scriptSetup.isSome then
    Module.withSetup content ((descriptor.script.map Block.content).getD "") format
  else
    content

/-- The map of a script that is taken as it stands: its external file counts as the source. -/
def mapAsRead (text : BlockText) (componentMap : Option SourceMap) : Option SourceMap :=
  match text.external with
  | some path => some (SourceMap.identity path.slashed text.content)
  | none => componentMap

/-- The map of a transpiled script. -/
def mergedMap : (component transpile : Option SourceMap) → Option SourceMap
  | some component, some transpile => some (SourceMap.merge component transpile)
  | component, transpile => transpile.orElse fun _ => component

/-- Whether something is there, in words. -/
def presence (present : Bool) : String := if present then "has" else "has no"

end ScriptPart

namespace Builder

variable {m : Type → Type} [Monad m] [Files m] [Journal m]

/-- Transpiles the code of a file. -/
def transpile (builder : Builder m) (transpiler : Transpiler m) (file : Path) (code : String) :
    ExceptT BuildError m TranspiledScript := do
  Journal.info "start transpiling script content" [fileField file]
  let request := ⟨file.text, code, builder.options.transpilerOptions⟩
  let output ← ExceptT.mk do
    return (← transpiler.transpile request).mapError (BuildError.transpiler file)
  Journal.info "finished transpiling script content" [fileField file]
  return output

/-- The code and map of a script after transpilation, if there is any. -/
def finishScript (builder : Builder m) (component : Path) (text : BlockText) (code : String)
    (componentMap : Option SourceMap) : ExceptT BuildError m (String × Option SourceMap) := do
  match builder.transpiler with
  | none =>
    Journal.info "transpilation is not enabled"
    return (code, ScriptPart.mapAsRead text componentMap)
  | some transpiler =>
    Journal.info "transpilation is enabled"
    let output ← builder.transpile transpiler (text.external.getD component) code
    let transpileMap ← ExceptT.mk (pure (decodeMap component output.map))
    return (output.code, ScriptPart.mergedMap componentMap transpileMap)

/-- The script of a module from the compiled script. -/
def scriptPart (builder : Builder m) (component : Path) (descriptor : Descriptor) :
    Option CompiledScript → ExceptT BuildError m ScriptPart
  | none => return {}
  | some compiled => do
    let format := builder.options.format
    let text ← ExceptT.mk (BlockText.ofScript compiled component)
    let componentMap ← ExceptT.mk (pure (decodeMap component compiled.map))
    let (code, map) ← builder.finishScript component text
      (ScriptPart.untranspiled descriptor compiled text.content format) componentMap
    Journal.info ("script " ++ ScriptPart.presence map.isSome ++ " source map")
    return {
      code := Module.inFormat code format
      map
      external := text.external
      hasRender := Module.rendersItself text.content
      functional := Module.isFunctionalCode text.content }

end Builder
end ComponentCompiler
