import ComponentCompiler.Config.Basic

/-!
# Settings from the environment

Variables of the environment override the configuration file: one sets the log level, three
others silence a category of diagnostics, whatever their value. An empty variable counts as
absent.
-/

namespace ComponentCompiler

/-- Gives the value of a variable of the environment. -/
abbrev Environment := String → Option String

namespace Environment

/-- The value of a variable that is not empty. -/
def value? (environment : Environment) (name : String) : Option String :=
  (environment name).filter (· != "")

def isSet (environment : Environment) (name : String) : Bool := (environment.value? name).isSome

end Environment

namespace Config

def logLevelVariable : String := "REVUE_LOG_LEVEL"

def parserErrorsVariable : String := "REVUE_SILENCE_PARSER_ERRORS"

def templateErrorsVariable : String := "REVUE_SILENCE_TEMPLATE_COMPILER_ERRORS"

def templateTipsVariable : String := "REVUE_SILENCE_TEMPLATE_COMPILER_TIPS"

/-- The names of the variables that matter. -/
def variableNames : List String :=
  [logLevelVariable, parserErrorsVariable, templateErrorsVariable, templateTipsVariable]

/-- The log level under an environment. -/
def logLevelUnder (config : Config) (environment : Environment) : Except ConfigError LogLevel :=
  match environment.value? logLevelVariable with
  | none => .ok config.logLevel
  | some text =>
    match LogLevel.parse? text with
    | some level => .ok level
    | none => .error (.invalidValue logLevelVariable text)

/-- The configuration under an environment. Diagnostics are only ever silenced by it. -/
def under (config : Config) (environment : Environment) : Except ConfigError Config := do
  let logLevel ← config.logLevelUnder environment
  return { config with
    logLevel
    silenceParserErrors :=
      config.silenceParserErrors || environment.isSet parserErrorsVariable
    silenceTemplateErrors :=
      config.silenceTemplateErrors || environment.isSet templateErrorsVariable
    silenceTemplateTips :=
      config.silenceTemplateTips || environment.isSet templateTipsVariable }

end Config
end ComponentCompiler
