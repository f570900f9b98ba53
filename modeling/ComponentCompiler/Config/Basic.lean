import ComponentCompiler.Diagnostic.Policy
import ComponentCompiler.Path
import ComponentCompiler.Toml.Basic

/-!
# Project configuration

What a project settles about compiling its components: how much is logged, the form of the
generated modules, whether and where they are cached, the transpiler, the compiler process and
the diagnostics that are not reported. Everything has a default.
-/

namespace ComponentCompiler

inductive LogLevel where
  | trace
  | debug
  | info
  | warn
  | error
  | silent
  deriving DecidableEq, Repr, Inhabited

namespace LogLevel

def all : List LogLevel := [trace, debug, info, warn, error, silent]

def name : LogLevel → String
  | trace => "trace"
  | debug => "debug"
  | info => "info"
  | warn => "warn"
  | error => "error"
  | silent => "silent"

/-- The level with a name. -/
def ofName? (name : String) : Option LogLevel := all.find? fun level => level.name == name

/-- The word that selects the level in a log filter. -/
def filter : LogLevel → String
  | silent => "off"
  | level => level.name

/-- A level by its name in any case, with blanks around it. -/
def parse? (text : String) : Option LogLevel :=
  ofName? (String.ofList ((Text.trim text.toList).map Text.asciiLower))

end LogLevel

/-- The form of a generated module: export statements, or assignments to `exports`. -/
inductive ModuleForm where
  | static
  | dynamic
  deriving DecidableEq, Repr, Inhabited

namespace ModuleForm

def name : ModuleForm → String
  | static => "static"
  | dynamic => "dynamic"

def ofName? (name : String) : Option ModuleForm :=
  [static, dynamic].find? fun format => format.name == name

end ModuleForm

/-- Options that are handed on as they are, sorted by name. -/
abbrev TranspilerOptions := List (String × Toml)

/-- A transpiler of its own, and the options for it. -/
structure TranspilerSettings where
  command : Option (List String) := none
  options : Option TranspilerOptions := none
  deriving Inhabited, Repr

/-- Transpilation is switched on or off, or on with settings. -/
inductive Transpilation where
  | enabled (value : Bool)
  | configured (config : TranspilerSettings)
  deriving Inhabited, Repr

/-- A message that is not reported: its text, or a search pattern. -/
inductive ExcludedMessage where
  | exact (text : String)
  | pattern (text : String)
  deriving DecidableEq, Repr

structure Config where
  logLevel : LogLevel := .warn
  moduleForm : ModuleForm := .dynamic
  permanentCache : Bool := false
  cachePath : Option Path := none
  silenceParserErrors : Bool := false
  silenceTemplateErrors : Bool := false
  silenceTemplateTips : Bool := false
  transpile : Transpilation := .enabled false
  compilerCommand : List String := ["node", "node_modules/revue-bridge/index.js"]
  parserErrors : List ExcludedMessage := []
  templateErrors : List ExcludedMessage := []
  templateTips : List ExcludedMessage := []
  deriving Inhabited, Repr

/-- Why a configuration cannot be used. -/
inductive ConfigError where
  | unreadable (path : Path) (cause : String)
  /-- The text is no document, or not one of a configuration. -/
  | malformed
  | invalidPattern (pattern : String)
  | emptyCommand (key : String)
  | invalidValue (key value : String)
  deriving DecidableEq, Repr

namespace ConfigError

def message : ConfigError → String
  | unreadable path cause => "failed to read configuration " ++ path.text ++ ": " ++ cause
  | malformed => "failed to parse configuration"
  | invalidPattern pattern => "invalid exclude pattern '" ++ pattern ++ "'"
  | emptyCommand key => "empty command for '" ++ key ++ "'"
  | invalidValue key value => "invalid value '" ++ value ++ "' for '" ++ key ++ "'"

end ConfigError

/-- Reads a log level that is given as a setting. -/
def LogLevel.parse (text : String) : Except ConfigError LogLevel :=
  match parse? text with
  | some level => .ok level
  | none => .error (.invalidValue "log_level" text)

/-- The rule for an excluded message. -/
def ExcludedMessage.rule : ExcludedMessage → Except ConfigError Exclusion
  | exact text => .ok (.exact text)
  | pattern source =>
    match Exclusion.ofPattern? source with
    | some rule => .ok rule
    | none => .error (.invalidPattern source)

namespace Config

/-- Where compiled modules are kept unless the configuration says otherwise. -/
def defaultCachePath : Path := ⟨"node_modules/.cache/revue"⟩

/-- The cache directory of a project with the given root. -/
def cacheDirectory (config : Config) (root : Path) : Path :=
  root.join (config.cachePath.getD defaultCachePath)

def transpiles (config : Config) : Bool :=
  match config.transpile with
  | .enabled value => value
  | .configured _ => true

/-- The command of a transpiler of its own. Without one the compiler transpiles. -/
def transpilerCommand (config : Config) : Option (List String) :=
  match config.transpile with
  | .enabled _ => none
  | .configured settings => settings.command

def usualTranspilerOptions : TranspilerOptions :=
  [("exclude", .text "node_modules"),
    ("presets", .array [.array [.text "@babel/preset-env",
      .table [("targets", .text "current node")]]])]

/-- The options for the transpiler; none or an empty table stand for the default ones. -/
def transpilerOptions (config : Config) : TranspilerOptions :=
  match config.transpile with
  | .configured ⟨_, some (option :: options)⟩ => option :: options
  | _ => usualTranspilerOptions

def filterOf (patterns : List ExcludedMessage) : Except ConfigError Exclusions := do
  return ⟨← patterns.mapM ExcludedMessage.rule⟩

/-- The diagnostics that are reported. -/
def policy (config : Config) : Except ConfigError Policy := do
  return {
    parserErrors := ⟨!config.silenceParserErrors, ← filterOf config.parserErrors⟩
    templateErrors := ⟨!config.silenceTemplateErrors, ← filterOf config.templateErrors⟩
    templateTips := ⟨!config.silenceTemplateTips, ← filterOf config.templateTips⟩ }

/-- A command starts with the name of a program. -/
def isEmptyCommand (command : List String) : Bool := command.head?.all (· == "")

/-- Refuses a configuration with which no component could be compiled. -/
def validate (config : Config) : Except ConfigError Unit := do
  if isEmptyCommand config.compilerCommand then throw (.emptyCommand "compiler.command")
  if config.transpilerCommand.any isEmptyCommand then throw (.emptyCommand "transpile.command")
  if config.cachePath == some ⟨""⟩ then throw (.invalidValue "cache_dir" "")
  let _ ← config.policy

end Config
end ComponentCompiler
