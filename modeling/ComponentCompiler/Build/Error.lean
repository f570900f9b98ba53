import ComponentCompiler.Cache.Index
import ComponentCompiler.Collaborator.Basic
import ComponentCompiler.SourceMap.Vlq
import ComponentCompiler.Version

/-!
# Why no module is built

The failures that end the building of a module. Complaints of the compiler about a component are
not among them.
-/

namespace ComponentCompiler

/-- What the compiler was asked to do. -/
inductive CompilerTask where
  | parse
  | compileScript
  | compileTemplate
  deriving DecidableEq, Repr

def CompilerTask.phrase : CompilerTask → String
  | parse => "parse"
  | compileScript => "compile script of"
  | compileTemplate => "compile template of"

inductive BuildError where
  /-- An external block cannot be read. -/
  | block (kind : BlockKind) (path : Path) (cause : FileError)
  | compiler (task : CompilerTask) (path : Path) (cause : AnswerError)
  | transpiler (path : Path) (cause : AnswerError)
  /-- A collaborator gave a source map that is none. -/
  | sourceMap (path : Path) (cause : MapError)
  /-- The compiler is too old for a script with setup. -/
  | setup (path : Path) (version : String)
  | unsupported (version : String)
  /-- The compiler cannot be started. -/
  | start (cause : AnswerError)
  /-- The transpiler that the configuration asks for cannot be started. -/
  | startTranspiler (command : String) (cause : AnswerError)
  | config (cause : ConfigError)
  | cache (cause : CacheError)
  deriving DecidableEq, Repr

def BuildError.message : BuildError → String
  | block kind path cause =>
    "failed to read " ++ kind.name ++ " block of " ++ path.text ++ ": " ++ cause.message
  | compiler task path cause =>
    "compiler error: failed to " ++ task.phrase ++ " " ++ path.text ++ ": " ++ cause.message
  | transpiler path cause => "failed to transpile " ++ path.text ++ ": " ++ cause.message
  | sourceMap path cause => "invalid source map for " ++ path.text ++ ": " ++ cause.message
  | setup path version =>
    "<script setup> in " ++ path.text ++ " requires compiler 2.7 or newer (found " ++ version ++
      ")"
  | unsupported version => "unsupported compiler version '" ++ version ++ "'"
  | start cause => "failed to start compiler: " ++ cause.message
  | startTranspiler command cause =>
    "transpilation is enabled but '" ++ command ++ "' could not be started: " ++ cause.message
  | config cause => cause.message
  | cache cause => cause.message

end ComponentCompiler
