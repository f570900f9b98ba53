import ComponentCompiler.Clock
import ComponentCompiler.Path

/-!
# Files

What the compiler does with files, as operations of the monad it runs in, and why they fail. A
file holds text and knows when it was last modified.
-/

namespace ComponentCompiler

/-- Why an operation on a file or a process failed. -/
inductive FileError where
  | notFound
  | permissionDenied
  | alreadyExists
  | notDirectory
  | isDirectory
  /-- The file holds no text. -/
  | invalidText
  /-- The path has a character that no path can have. -/
  | invalidPath
  /-- A program was given a text that no program can be given. -/
  | invalidArgument
  | brokenPipe
  /-- The system cannot do this at all. -/
  | unsupported
  | other (text : String)
  deriving DecidableEq, Repr

namespace FileError

def message : FileError → String
  | notFound => "No such file or directory (os error 2)"
  | permissionDenied => "Permission denied (os error 13)"
  | alreadyExists => "File exists (os error 17)"
  | notDirectory => "Not a directory (os error 20)"
  | isDirectory => "Is a directory (os error 21)"
  | invalidText => "stream did not contain valid UTF-8"
  | invalidPath => "file name contained an unexpected NUL byte"
  | invalidArgument => "nul byte found in provided data"
  | brokenPipe => "Broken pipe (os error 32)"
  | unsupported => "operation not supported on this platform"
  | other text => text

end FileError

/-- The operations on files. -/
class Files (m : Type → Type) where
  /-- The text of a file. -/
  readText : Path → m (Except FileError String)
  /-- Makes a text the content of a file, which need not exist before. -/
  writeText : Path → String → m (Except FileError Unit)
  /-- Makes a directory and those above it, as far as they do not exist. -/
  makeDirectories : Path → m (Except FileError Unit)
  /-- The paths of the entries of a directory, in any order. -/
  entries : Path → m (Except FileError (List Path))
  /-- Removes a file, or a directory with all it holds. -/
  remove : Path → m (Except FileError Unit)
  isFile : Path → m Bool
  /-- Whether there is a file or a directory. -/
  pathExists : Path → m Bool
  /-- When a file or directory was last modified; none if that is not known. -/
  modified : Path → m (Option Timestamp)

end ComponentCompiler
