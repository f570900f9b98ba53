import ComponentCompiler.Files

/-!
# Programs and the terminal

Collaborators are programs that run beside the compiler and are spoken to line by line. A command
finds its directory and its environment at the terminal, and writes to it.
-/

namespace ComponentCompiler

/-- A running program. -/
structure Program where
  number : Nat
  deriving DecidableEq, Repr, Inhabited

/-- The operations on programs. -/
class Programs (m : Type → Type) where
  /-- Starts a program with arguments in a directory. -/
  launch : (name : String) → (arguments : List String) → (directory : Path) →
    m (Except FileError Program)
  /-- Sends a line to a program and waits for the line that answers it; none if the program is
  done. -/
  exchange : Program → (line : String) → m (Except FileError (Option String))

/-- The operations on a terminal. -/
class Terminal (m : Type → Type) where
  /-- The directory that relative paths start from. -/
  workingDirectory : m (Except FileError Path)
  /-- The value of a variable of the environment. -/
  variableValue : String → m (Option String)
  /-- Writes to the standard output. -/
  print : String → m Unit
  /-- Writes a line to the standard error output. -/
  complain : String → m Unit

end ComponentCompiler
