import ComponentCompiler.Config.Basic
import ComponentCompiler.Json.Record
import ComponentCompiler.Toml.Parser
import ComponentCompiler.Toml.Printer

/-!
# The configuration file

The document form of a configuration: which keys it has and what stands at them. Keys that mean
nothing are refused. Main functions: `Config.parse` reads a document, `Config.document` writes
one, and `Config.toJson` gives the same content as JSON.
-/

namespace ComponentCompiler

namespace Toml

/-- Reads a value as a part of a configuration. -/
abbrev Decoder (α : Type) := Toml → Option α

def asText? : Decoder String
  | text s => some s
  | _ => none

def asBoolean? : Decoder Bool
  | boolean b => some b
  | _ => none

/-- One of a list of names: its text, or a table with the name as its only key and nothing
there. -/
def asName? : Decoder String
  | text s => some s
  | table [(name, table [])] => some name
  | table [(name, array [])] => some name
  | _ => none

/-- The values at the given keys. A list gives them in their order. With `strict` no other keys
are allowed. -/
def asFields? (keys : List String) (strict : Bool) : Toml → Option (String → Option Toml)
  | table entries =>
    if strict && !entries.all fun entry => keys.contains entry.1 then none
    else some fun key => Keyed.get? key entries
  | array items => some fun key => Keyed.get? key (keys.zip items)
  | _ => none

/-- The value at a key, or a default where there is none. -/
def field? (fields : String → Option Toml) (key : String) (default : α) (decode : Decoder α) :
    Option α :=
  match fields key with
  | none => some default
  | some value => decode value

def asTexts? : Decoder (List String)
  | array items => items.mapM asText?
  | _ => none

/-- A program and its arguments: a text is a program without arguments. -/
def asCommand? : Decoder (List String)
  | text s => some [s]
  | value => asTexts? value

/-- The key of a table that stands for a date. -/
def dateKey : String := "$__toml_private_datetime"

mutual

/-- Reads the tables that stand for dates: those that begin with the key of dates. There is a text
with the date and nothing else. -/
def dated? : Decoder Toml
  | array items => do return array (← datedItems? items)
  | table entries =>
    match entries with
    | (key, value) :: rest =>
      if key = dateKey then
        match value, rest with
        | text s, [] => (dateOfText? s.toList).map date
        | _, _ => none
      else do
        let first ← dated? value
        return table ((key, first) :: (← datedEntries? rest))
    | [] => some (table [])
  | other => some other

def datedItems? : List Toml → Option (List Toml)
  | [] => some []
  | item :: rest => do
    let first ← dated? item
    return first :: (← datedItems? rest)

def datedEntries? : List (String × Toml) → Option (List (String × Toml))
  | [] => some []
  | (key, value) :: rest => do
    let first ← dated? value
    return (key, first) :: (← datedEntries? rest)

end

/-- A table of any values, sorted by key at all levels. A date is the table that stands for it. -/
def asEntries? : Decoder (List (String × Toml))
  | table entries => do return Keyed.sorted (canonicalEntries (← datedEntries? entries))
  | date d => some [(dateKey, text d.text)]
  | _ => none

/-- No more than a number of items in a list. -/
def atMost (count : Nat) : Toml → Bool
  | array items => items.length ≤ count
  | _ => true

mutual

/-- The same content as JSON. Numbers that JSON cannot express become null. -/
def toJson : Toml → Json
  | text s => .text s
  | integer i => .integer i
  | float (.finite x) => .float x
  | float _ => .null
  | boolean b => .bool b
  | date d => .object [(dateKey, .text d.text)]
  | array items => .array (itemsToJson items)
  | table entries => .object (entriesToJson entries)

def itemsToJson : List Toml → List Json
  | [] => []
  | item :: rest => item.toJson :: itemsToJson rest

def entriesToJson : List (String × Toml) → List (String × Json)
  | [] => []
  | (key, value) :: rest => (key, value.toJson) :: entriesToJson rest

end

end Toml

instance : Json.Readable LogLevel := ⟨.whole, fun value => value.asName?.bind LogLevel.ofName?⟩

instance : Json.Readable ModuleForm :=
  ⟨.whole, fun value => value.asName?.bind ModuleForm.ofName?⟩

namespace ExcludedMessage

/-- A text, or a table with a pattern. -/
def ofToml? : Toml → Option ExcludedMessage
  | .text s => some (exact s)
  | value =>
    if value.atMost 1 then do
      let fields ← value.asFields? ["regex"] false
      return pattern (← (← fields "regex").asText?)
    else
      none

def toToml : ExcludedMessage → Toml
  | exact s => .text s
  | pattern s => .table [("regex", .text s)]

end ExcludedMessage

namespace Transpilation

/-- A switch, or the settings of a transpiler. -/
def ofToml? : Toml → Option Transpilation
  | .boolean b => some (enabled b)
  | value =>
    if value.atMost 2 then do
      let fields ← value.asFields? ["command", "options"] true
      let command ← Toml.field? fields "command" none fun v => v.asCommand?.map some
      let options ← Toml.field? fields "options" none fun v => v.asEntries?.map some
      return configured ⟨command, options⟩
    else
      none

def toToml : Transpilation → Toml
  | enabled b => .boolean b
  | configured ⟨command, options⟩ =>
    .table ((command.map fun c => ("command", Toml.array (c.map .text))).toList ++
      (options.map fun o => ("options", Toml.table (Toml.groupedEntries o))).toList)

end Transpilation

namespace Config

def patternsOfToml? (value : Toml) : Option (List ExcludedMessage) := do
  let fields ← value.asFields? ["exclude"] true
  Toml.field? fields "exclude" [] fun
    | .array items => items.mapM ExcludedMessage.ofToml?
    | _ => none

def patternsToToml (patterns : List ExcludedMessage) : Toml :=
  .table [("exclude", .array (patterns.map ExcludedMessage.toToml))]

def commandOfToml? (value : Toml) : Option (List String) := do
  let fields ← value.asFields? ["command"] true
  Toml.field? fields "command" ({} : Config).compilerCommand Toml.asCommand?

def parserOfToml? (value : Toml) : Option (List ExcludedMessage) := do
  let fields ← value.asFields? ["errors"] true
  Toml.field? fields "errors" [] patternsOfToml?

def templateOfToml? (value : Toml) : Option (List ExcludedMessage × List ExcludedMessage) := do
  let fields ← value.asFields? ["errors", "tips"] true
  let errors ← Toml.field? fields "errors" [] patternsOfToml?
  let tips ← Toml.field? fields "tips" [] patternsOfToml?
  return (errors, tips)

/-- The keys of a configuration. -/
def keys : List String :=
  ["log_level", "module_format", "permanent_cache", "cache_dir", "no_log_parser_errors",
    "no_log_template_compiler_errors", "no_log_template_compiler_tips", "transpile", "compiler",
    "parser", "template_compiler"]

/-- The configuration of a table. -/
def ofToml? (document : Toml) : Option Config := do
  let fields ← document.asFields? keys true
  let (templateErrors, templateTips) ←
    Toml.field? fields "template_compiler" ([], []) templateOfToml?
  return {
    logLevel := ← Toml.field? fields "log_level" .warn
      fun v => v.asName?.bind LogLevel.ofName?
    moduleForm := ← Toml.field? fields "module_format" .dynamic
      fun v => v.asName?.bind ModuleForm.ofName?
    permanentCache := ← Toml.field? fields "permanent_cache" false Toml.asBoolean?
    cachePath := ← Toml.field? fields "cache_dir" none fun v => v.asText?.map fun s => some ⟨s⟩
    silenceParserErrors := ← Toml.field? fields "no_log_parser_errors" false Toml.asBoolean?
    silenceTemplateErrors :=
      ← Toml.field? fields "no_log_template_compiler_errors" false Toml.asBoolean?
    silenceTemplateTips :=
      ← Toml.field? fields "no_log_template_compiler_tips" false Toml.asBoolean?
    transpile := ← Toml.field? fields "transpile" (.enabled false) Transpilation.ofToml?
    compilerCommand :=
      ← Toml.field? fields "compiler" ({} : Config).compilerCommand commandOfToml?
    parserErrors := ← Toml.field? fields "parser" [] parserOfToml?
    templateErrors
    templateTips }

/-- The configuration that a document describes, if it can be used. -/
def parse (document : String) : Except ConfigError Config := do
  match (Toml.parse? document).bind fun entries => ofToml? (.table entries) with
  | none => throw .malformed
  | some config =>
    config.validate
    return config

/-- The entries of a configuration in the order in which they are written. -/
def toToml (config : Config) : List (String × Toml) :=
  [("log_level", .text config.logLevel.name),
    ("module_format", .text config.moduleForm.name),
    ("permanent_cache", .boolean config.permanentCache)] ++
  (config.cachePath.map fun path => ("cache_dir", Toml.text path.text)).toList ++
  [("no_log_parser_errors", .boolean config.silenceParserErrors),
    ("no_log_template_compiler_errors", .boolean config.silenceTemplateErrors),
    ("no_log_template_compiler_tips", .boolean config.silenceTemplateTips),
    ("transpile", config.transpile.toToml),
    ("compiler", .table [("command", .array (config.compilerCommand.map .text))]),
    ("parser", .table [("errors", patternsToToml config.parserErrors)]),
    ("template_compiler", .table [("errors", patternsToToml config.templateErrors),
      ("tips", patternsToToml config.templateTips)])]

/-- The document of a configuration. -/
def document (config : Config) : String := Toml.document config.toToml

/-- Whether two configurations have the same content. -/
def same (a b : Config) : Bool :=
  (Toml.table a.toToml).canonical.same (Toml.table b.toToml).canonical

def toJson (config : Config) : Json := (Toml.table config.toToml).toJson

end Config
end ComponentCompiler
