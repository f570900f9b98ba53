import ComponentCompiler.Build.Template
import ComponentCompiler.Component.Display
import ComponentCompiler.SourceMap.Compose
import ComponentCompiler.SourceMap.Inline

/-!
# Building a module

A component is parsed, its script and its template are built, and both are put together with an
embedded map that traces them back. The result also tells which files it was made from.
-/

namespace ComponentCompiler

/-- A module and the files that it was made from. -/
structure BuiltModule where
  code : String
  dependencies : Dependencies
  deriving DecidableEq, Repr, Inhabited

namespace BuiltModule

/-- A script above a template; an empty part is left out. -/
def body (script template : String) : String := TemplatePart.stacked [script, template]

/-- A text with a map below it. -/
def withMap (body : String) : Option SourceMap → String
  | none => body ++ "\n"
  | some map => body ++ "\n\n" ++ map.comment ++ "\n"

/-- Puts the parts of a module together. -/
def assemble (script : ScriptPart) (template : TemplatePart) : String :=
  withMap (body script.code template.code) (SourceMap.compose script.map template.map script.code)

end BuiltModule

namespace Builder

variable {m : Type → Type} [Monad m] [Files m] [Journal m]

/-- Tells which blocks a component has. -/
def announceBlocks (descriptor : Descriptor) : m Unit := do
  let announce (kind : String) (present : Bool) : m Unit :=
    Journal.info (ScriptPart.presence present ++ " " ++ kind ++ " block")
  announce "template" descriptor.template.isSome
  announce "script" descriptor.script.isSome
  announce "script setup" descriptor.scriptSetup.isSome
  announce "style(s)" !descriptor.styles.isEmpty

/-- Parses a component and delivers what is wrong with it. -/
def parse (builder : Builder m) (source : String) (file : Path) :
    ExceptT BuildError m Descriptor := do
  let output ← compilerAnswer .parse file (builder.compiler.parse source file.text)
  Journal.debug "parsed descriptor"
    [fileField file, ("descriptor", Display.descriptor output.descriptor)]
  let text : SourceText := ⟨file, source⟩
  builder.deliverAll ⟨[text]⟩ file (output.errors.map (located .parserError 0 text))
  announceBlocks (m := m) output.descriptor
  return output.descriptor

/-- Refuses a script with setup that the compiler does not know. -/
def checkSetup (builder : Builder m) (file : Path) (descriptor : Descriptor) :
    Except BuildError Unit :=
  if descriptor.scriptSetup.isSome && !builder.variant.supportsSetup builder.version then
    .error (.setup file builder.version.raw)
  else
    .ok ()

/-- Compiles the scripts of a component. -/
def compileScript (builder : Builder m) (file : Path) (descriptor : Descriptor) :
    ExceptT BuildError m (Option CompiledScript) :=
  let component : Component := { descriptor }
  compilerAnswer .compileScript file do
    return (← component.compiledScript fun d => builder.compiler.compileScript d file.text).1

/-- Builds the module of a component from its text. -/
def build (builder : Builder m) (source : String) (file : Path) :
    ExceptT BuildError m BuiltModule := do
  Journal.info "start compiling" [fileField file]
  let descriptor ← builder.parse source file
  ExceptT.mk (pure (builder.checkSetup file descriptor))
  let compiled ← builder.compileScript file descriptor
  let script ← builder.scriptPart file descriptor compiled
  Journal.info (ScriptPart.presence script.hasRender ++ " render function") [fileField file]
  let template ← builder.templatePart file descriptor (compiled.bind CompiledScript.bindings)
    script ⟨[⟨file, source⟩]⟩
  let code := BuiltModule.assemble script template
  Journal.debug ("compiled component\n" ++ code) [fileField file]
  Journal.info "finished compiling" [fileField file]
  return {
    code
    dependencies := ⟨file, script.external, template.external⟩ }

end Builder
end ComponentCompiler
