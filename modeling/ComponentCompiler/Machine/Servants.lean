import ComponentCompiler.Machine.Basic
import ComponentCompiler.Surroundings

/-!
# Programs on a machine

The shell is the only program on a machine. A script that it runs is a servant: its replies are
the lines of a file beside the script, and the lines that it is sent are noted in another one.
-/

namespace ComponentCompiler.Machine

/-- The file next to another one, with an ending of its own. -/
def beside (path : Path) (ending : String) : Path := ⟨path.text ++ ending⟩

/-- What a script does. Without its files it does nothing. -/
def servantOf (machine : Machine) (script : Path) : Servant :=
  let read (path : Path) := machine.disk.content machine.here path
  match read script, read (beside script ".replies") with
  | .ok _, .ok replies => { log := some (beside script ".log"), replies := replies.finishedLines }
  | _, _ => { log := none, replies := [] }

/-- Why a program cannot be started in a directory. -/
def launchError? (machine : Machine) (name : String) (arguments : List String)
    (directory : Path) : Option FileError :=
  if (name :: directory.text :: arguments).any fun part => part.toList.contains '\x00' then
    some .invalidArgument
  else match machine.disk.find machine.here directory with
  | .error e => some e
  | .ok (_, .file ..) => some .notDirectory
  | .ok (_, .directory _) =>
    if name.toList.contains '/' then
      match machine.disk.find machine.here (directory.join ⟨name⟩) with
      | .error e => some e
      | .ok _ => some .permissionDenied
    else if name = "sh" then
      none
    else
      some .notFound

/-- Starts a program, unless that fails. -/
def launch (machine : Machine) (name : String) (arguments : List String) (directory : Path) :
    Except FileError Program × Machine :=
  match machine.launchError? name arguments directory with
  | some e => (.error e, machine)
  | none =>
    let servant := match arguments with
      | script :: _ => machine.servantOf (directory.join ⟨script⟩)
      | [] => { log := none, replies := [] }
    (.ok ⟨machine.servants.length⟩, { machine with servants := machine.servants ++ [servant] })

/-- Adds a line to a file. -/
def appendLine (machine : Machine) (path : Path) (line : String) : Machine :=
  let before := match machine.disk.readText machine.here path with
    | .ok text => text
    | .error _ => ""
  machine.writeFile path (.text (before ++ line ++ "\n"))

/-- The next reply of a servant, and the servant after it. -/
def Servant.next (servant : Servant) : Except FileError (Option String) × Servant :=
  match servant.replies with
  | some reply :: replies => (.ok (some reply), { servant with replies })
  | none :: replies => (.error .invalidText, { servant with replies })
  | [] => (.ok none, { servant with running := false })

/-- Sends a line to a program. -/
def exchange (machine : Machine) (program : Program) (line : String) :
    Except FileError (Option String) × Machine :=
  match machine.servants[program.number]? with
  | none => (.error .brokenPipe, machine)
  | some servant =>
    if !servant.running then
      (.error .brokenPipe, machine)
    else
      let machine := match servant.log with
        | some path => machine.appendLine path line
        | none => machine
      let (reply, servant) := Servant.next servant
      (reply, { machine with servants := machine.servants.set program.number servant })

variable {m : Type → Type} [Monad m] [MonadStateOf Machine m]

instance : Programs m where
  launch name arguments directory := modifyGet fun s => s.launch name arguments directory
  exchange program line := modifyGet fun s => s.exchange program line

end ComponentCompiler.Machine
