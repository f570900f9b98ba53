import ComponentCompiler.CommandLine.Basic
import Std.Time.DateTime.Timestamp

/-!
# The program

The command line on a real system: files, the environment and the standard streams. Programs
cannot be started from here, so a command that needs a compiler fails.
-/

namespace ComponentCompiler

/-- What a running command remembers, on top of the system. -/
abbrev Session := StateT LoaderState (StateT LogLevel IO)

namespace Session

/-- The cause that an error of the system stands for. -/
def causeOf (e : IO.Error) : FileError :=
  match e with
  | .noFileOrDirectory .. => .notFound
  | .permissionDenied .. => .permissionDenied
  | .alreadyExists .. => .alreadyExists
  | .inappropriateType _ 20 _ => .notDirectory
  | .inappropriateType _ 21 _ => .isDirectory
  | .resourceVanished .. => .brokenPipe
  | e => .other (toString e)

/-- Runs an action of the system. -/
def attempt (action : IO α) : Session (Except FileError α) := do
  match ← (action.toBaseIO : BaseIO (Except IO.Error α)) with
  | .ok value => return .ok value
  | .error e => return .error (causeOf e)

/-- Whether an action of the system gives a value that passes a test. -/
def succeeds (action : IO α) (test : α → Bool) : Session Bool := do
  match ← attempt action with
  | .ok value => return test value
  | .error _ => return false

def metadata (path : Path) : IO IO.FS.Metadata := do
  (← IO.FS.realPath path.text).metadata

def isDirectory (data : IO.FS.Metadata) : Bool :=
  match data.type with
  | .dir => true
  | _ => false

def isFile (data : IO.FS.Metadata) : Bool :=
  match data.type with
  | .file => true
  | _ => false

instance : Files Session where
  readText path := do
    match ← attempt (IO.FS.readBinFile path.text) with
    | .error e => return .error e
    | .ok bytes =>
      match String.fromUTF8? bytes with
      | some content => return .ok content
      | none => return .error .invalidText
  writeText path content := attempt (IO.FS.writeFile path.text content)
  makeDirectories path := attempt do
    if path.text != "" then IO.FS.createDirAll path.text
  entries path := attempt do
    let found ← (← IO.FS.realPath path.text).readDir
    return found.toList.map fun entry => path.join ⟨entry.fileName⟩
  remove path := attempt do
    if isDirectory (← metadata path) then IO.FS.removeDirAll path.text
    else IO.FS.removeFile path.text
  isFile path := succeeds (metadata path) isFile
  pathExists path := succeeds (metadata path) fun _ => true
  modified path := do
    match ← attempt (metadata path) with
    | .ok data => return some ⟨data.modified.sec, data.modified.nsec.toNat⟩
    | .error _ => return none

/-- What time it is. -/
def now : IO Timestamp := do
  let time ← Std.Time.Timestamp.now
  let nanoseconds := time.toNanosecondsSinceUnixEpoch.val
  return ⟨nanoseconds / 10 ^ 9, (nanoseconds % 10 ^ 9).toNat⟩

instance : Journal Session where
  record event := do
    if event.level.shownAt (← getThe LogLevel) then
      IO.eprintln ((← now).text ++ " " ++ event.line)
  showLevel level := modifyThe LogLevel fun _ => level

instance : Terminal Session where
  workingDirectory := attempt do return ⟨toString (← IO.currentDir)⟩
  variableValue name := do IO.getEnv name
  print text := IO.print text
  complain text := IO.eprintln text

instance : Programs Session where
  launch _ _ _ := return .error .unsupported
  exchange _ _ := return .error .brokenPipe

end Session
end ComponentCompiler

/-- Runs the command line and gives its exit code. -/
def main (arguments : List String) : IO UInt32 := do
  let session : ComponentCompiler.Session Nat := ComponentCompiler.CommandLine.run arguments
  let ((code, _), _) ← (session.run {}).run .silent
  return UInt32.ofNat code
