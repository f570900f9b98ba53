import ComponentCompiler.Build.BlockText
import ComponentCompiler.Config.Document
import ComponentCompiler.Diagnostic.Report
import ComponentCompiler.SourceMap.Decode

/-!
# Builders

A builder makes modules of components with one compiler and perhaps a transpiler, under options
that stay the same. What the compiler complains about is located in the text that it was given,
filtered, and delivered as records.
-/

namespace ComponentCompiler

structure BuildOptions where
  format : ModuleForm := .dynamic
  /-- What every request to the transpiler carries. -/
  transpilerOptions : Json := .null
  policy : Policy := {}
  deriving Inhabited

def BuildOptions.ofConfig (config : Config) : Except ConfigError BuildOptions := do
  return {
    format := config.moduleForm
    transpilerOptions := (Toml.table config.transpilerOptions).toJson.canonical
    policy := ← config.policy }

structure Builder (m : Type → Type) where
  compiler : Compiler m
  transpiler : Option (Transpiler m) := none
  version : Version
  variant : Version.Variant
  options : BuildOptions := {}
  style : LineStyle := {}
  /-- Where records go. -/
  deliver : Record → m Unit

def Version.Variant.name : Version.Variant → String
  | .legacy => "Legacy"
  | .modern => "Modern"

namespace Record

variable {m : Type → Type} [Journal m]

/-- Puts a record into the journal. -/
def announce (record : Record) : m Unit :=
  let level := match record.severity with
    | .error => EventLevel.error
    | .warning => EventLevel.warn
  Journal.record ⟨level, record.text,
    [("file", record.file), ("category", record.category.name)]⟩

end Record

namespace Builder

variable {m : Type → Type} [Monad m] [Files m] [Journal m]

/-- The version and generation of a compiler that can be used. -/
def supported (reported : String) : Except BuildError (Version × Version.Variant) :=
  match (Version.parse reported).toOption.bind fun v => v.variant?.map (v, ·) with
  | some found => .ok found
  | none => .error (.unsupported reported)

/-- A builder with a compiler; records go into the journal. -/
def ofCompiler (compiler : Compiler m) (options : BuildOptions) :
    m (Except BuildError (Builder m)) := do
  match supported compiler.version with
  | .error e => return .error e
  | .ok (version, variant) =>
    Journal.debug "selected compiler variant" [("version", version.raw), ("variant", variant.name)]
    return .ok { compiler, version, variant, options, deliver := Record.announce }

/-- A complaint about a text as a diagnostic. -/
def located (category : Category) (id : Nat) (source : SourceText) (message : Complaint) :
    Diagnostic where
  category := category
  message := message.message
  span := match message.range with
    | none => Span.nowhere
    | some (start, stop) =>
      Span.between id (source.byteOffsetOfUnits start) (source.byteOffsetOfUnits stop)

/-- Delivers what is reported of some diagnostics. -/
def deliverAll (builder : Builder m) (sources : SourceSet) (file : Path)
    (diagnostics : List Diagnostic) : m Unit := do
  let silence (category : Category) : m Unit :=
    Journal.debug "diagnostics output is disabled"
      [fileField file, ("category", category.name)]
  let _ ← handOn builder.deliver silence
    (report builder.style builder.options.policy sources file.text diagnostics)

/-- A source map that a collaborator gave for a component. -/
def decodeMap (component : Path) : Option Json → Except BuildError (Option SourceMap)
  | none => .ok none
  | some document =>
    match SourceMap.ofJson document with
    | .ok map => .ok (some map)
    | .error e => .error (.sourceMap component e)

/-- An answer for a task of the compiler. -/
def compilerAnswer (task : CompilerTask) (component : Path) (answer : m (Answer α)) :
    ExceptT BuildError m α :=
  ExceptT.mk do return (← answer).mapError (.compiler task component)

end Builder
end ComponentCompiler
