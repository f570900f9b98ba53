import ComponentCompiler.Component.Basic
import ComponentCompiler.Files

/-!
# The compiler and the transpiler

Components are parsed, and scripts and templates compiled, by a program of its own; another one,
or the same, may transpile scripts. They are asked one thing at a time. Their complaints about a
component come with their results and are no failures.
-/

namespace ComponentCompiler

/-- A complaint about a text, with a range that counts 16-bit units. -/
structure Complaint where
  message : String
  range : Option (Nat × Nat) := none
  deriving DecidableEq, Repr, Inhabited

/-- What becomes of parsing a component. -/
structure ParsedComponent where
  descriptor : Descriptor
  errors : List Complaint := []
  deriving Inhabited

structure TemplateTask where
  source : String
  /-- The file that the template comes from. -/
  filename : String
  isFunctional : Bool
  usesTypescript : Bool
  bindings : Option Json := none
  deriving Inhabited, BEq

structure CompiledTemplate where
  code : String
  map : Option Json := none
  errors : List Complaint := []
  tips : List Complaint := []
  deriving Inhabited

structure TranspilerTask where
  filename : String
  code : String
  options : Json
  deriving Inhabited, BEq

structure TranspiledScript where
  code : String
  map : Option Json := none
  deriving Inhabited

/-- Why a collaborator gave no answer. -/
inductive AnswerError where
  | spawn (command : String) (cause : FileError)
  | emptyCommand
  | exchange (cause : FileError)
  /-- The answer is not of the expected shape. -/
  | malformed
  | closed
  | remote (method message : String)
  deriving DecidableEq, Repr

def AnswerError.message : AnswerError → String
  | spawn command cause => "failed to spawn '" ++ command ++ "': " ++ cause.message
  | emptyCommand => "empty collaborator command"
  | exchange cause => "collaborator I/O error: " ++ cause.message
  | malformed => "malformed collaborator message"
  | closed => "collaborator process closed the connection"
  | remote method message => method ++ " failed: " ++ message

/-- The result of asking a collaborator. -/
abbrev Answer (α : Type) := Except AnswerError α

/-- A compiler of components. -/
structure Compiler (m : Type → Type) where
  /-- The version that it reports. -/
  version : String
  parse : (source filename : String) → m (Answer ParsedComponent)
  /-- Compiles the scripts; a component without any has no compiled script. -/
  compileScript : Descriptor → (filename : String) → m (Answer (Option CompiledScript))
  compileTemplate : TemplateTask → m (Answer CompiledTemplate)

/-- A transpiler of scripts. -/
structure Transpiler (m : Type → Type) where
  transpile : TranspilerTask → m (Answer TranspiledScript)

end ComponentCompiler
