import ComponentCompiler.Collaborator.Wire
import ComponentCompiler.Journal
import ComponentCompiler.Json.Parser
import ComponentCompiler.Json.Printer
import ComponentCompiler.Surroundings
import ComponentCompiler.Text.Blank

/-!
# Collaborators in programs of their own

A collaborator is a running program that answers requests. A request is one line of JSON with a
method and its parameters, and the answer is one line with a result or an error. The first request
asks for the version.
-/

namespace ComponentCompiler

structure Collaborator where
  /-- The command that started the program, in one text. -/
  command : String
  /-- The version that the program reports. -/
  version : String
  program : Program
  deriving Repr, Inhabited

namespace Collaborator

/-- The line of a request. -/
def requestLine (method : String) (parameters : Json) : String :=
  (Json.object [("method", .text method), ("params", parameters)]).compact

/-- The shape of an answer with a result. -/
def answerShape (result : Json.Shape) : Json.Shape :=
  .record [("result", result), ("error", .whole)]

/-- What the line of an answer says. A result of the wrong shape is worse than an error, and
without either the result is null. -/
def readAnswer [Json.Readable α] (method line : String) : Answer α :=
  let shape := answerShape (Json.Readable.shape α)
  let parts : Option (Option α × Option String) := do
    let answer ← Json.parse? shape (Text.trimmedEnd line)
    let members ← answer.record? shape 2
    return (← members.optional? "result" Json.Readable.ofJson?,
      ← members.optional? "error" Json.asText?)
  match parts with
  | none => .error .malformed
  | some (_, some message) => .error (.remote method message)
  | some (some result, none) => .ok result
  | some (none, none) =>
    match Json.Readable.ofJson? .null with
    | some result => .ok result
    | none => .error .malformed

variable {m : Type → Type} [Monad m] [Programs m]

/-- Asks a program. -/
def ask [Json.Readable α] (program : Program) (method : String) (parameters : Json) :
    m (Answer α) := do
  match ← Programs.exchange program (requestLine method parameters) with
  | .error cause => return .error (.exchange cause)
  | .ok none => return .error .closed
  | .ok (some line) => return readAnswer method line

/-- Starts the program of a command in a directory and asks for its version. -/
def start [Journal m] (command : List String) (directory : Path) :
    m (Answer Collaborator) := do
  match command with
  | [] => return .error .emptyCommand
  | name :: arguments =>
    let command := String.intercalate " " (name :: arguments)
    Journal.debug "starting collaborator" [("command", command)]
    match ← Programs.launch name arguments directory with
    | .error cause => return .error (.spawn command cause)
    | .ok program =>
      match ← ask program "version" .null with
      | .error e => return .error e
      | .ok version =>
        Journal.info "collaborator ready" [("command", command), ("version", version)]
        return .ok { command, version, program }

/-- The program as a compiler. -/
def compiler (collaborator : Collaborator) : Compiler m where
  version := collaborator.version
  parse source filename :=
    ask collaborator.program "parse" (parseParameters source filename)
  compileScript descriptor filename :=
    ask collaborator.program "compileScript" (scriptParameters descriptor filename)
  compileTemplate request :=
    ask collaborator.program "compileTemplate" request.toJson

/-- The program as a transpiler. -/
def transpiler (collaborator : Collaborator) : Transpiler m where
  transpile request := ask collaborator.program "transpile" request.toJson

end Collaborator
end ComponentCompiler
