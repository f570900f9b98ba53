import ComponentCompiler.Build.Script
import ComponentCompiler.Module.Joining

/-!
# The template of a module

The template is read and compiled to functions, which are put into the module format and
connected with the script. A script that renders by itself needs no template.
-/

namespace ComponentCompiler

structure TemplatePart where
  code : String := ""
  map : Option SourceMap := none
  external : Option Path := none
  deriving Inhabited

namespace TemplatePart

/-- Puts the parts that are not empty below one another. -/
def stacked (parts : List String) : String :=
  String.intercalate "\n" (parts.filter (· != ""))

/-- The functions of a template in a module format, with the lines that connect them. -/
def connected (code : String) (format : ModuleForm) (functional : Bool) : String :=
  let code := match format with
    | .dynamic => Module.inFormat code .dynamic
    | .static => code
  stacked (code :: Module.templateLines code format functional)

/-- What stands in for the template of a script that renders by itself. -/
def standIn (format : ModuleForm) (functional : Bool) : String :=
  String.intercalate "\n" (Module.renderLines format functional)

end TemplatePart

namespace Builder

variable {m : Type → Type} [Monad m] [Files m] [Journal m]

/-- Whether a component is functional, by its script or its template. -/
def isFunctional (descriptor : Descriptor) (script : ScriptPart) : Bool :=
  script.functional || descriptor.template.any fun block => block.hasAttribute "functional"

/-- What the compiler complains about in a template. -/
def templateDiagnostics (id : Nat) (source : SourceText) (output : CompiledTemplate) :
    List Diagnostic :=
  output.errors.map (located .templateError id source) ++
    output.tips.map (located .templateTip id source)

/-- Compiles the text of a template. -/
def compileTemplate (builder : Builder m) (component : Path) (descriptor : Descriptor)
    (bindings : Option Json) (functional : Bool) (sources : SourceSet) (text : BlockText) :
    ExceptT BuildError m TemplatePart := do
  let file := text.external.getD component
  Journal.debug ("template content\n" ++ text.content) [fileField file]
  let output ← compilerAnswer .compileTemplate component (builder.compiler.compileTemplate {
    source := text.content
    filename := file.text
    isFunctional := functional
    usesTypescript := descriptor.usesTypescript
    bindings })
  Journal.debug ("compiled template\n" ++ output.code) [fileField file]
  let source : SourceText := ⟨file, text.content⟩
  builder.deliverAll (sources.add source) file (templateDiagnostics sources.nextId source output)
  let map ← ExceptT.mk (pure (decodeMap component output.map))
  return {
    code := TemplatePart.connected output.code builder.options.format functional
    map
    external := text.external }

/-- The template of a module, or what stands in for it. -/
def templatePart (builder : Builder m) (component : Path) (descriptor : Descriptor)
    (bindings : Option Json) (script : ScriptPart) (sources : SourceSet) :
    ExceptT BuildError m TemplatePart := do
  let functional := isFunctional descriptor script
  Journal.info ((if functional then "functional" else "regular") ++ " component")
    [fileField component]
  if script.hasRender then
    return { code := TemplatePart.standIn builder.options.format functional }
  else
    match descriptor.template with
    | none => return {}
    | some block =>
      let text ← ExceptT.mk (BlockText.ofBlock block component)
      builder.compileTemplate component descriptor bindings functional sources text

end Builder
end ComponentCompiler
