import ComponentCompiler.Journal
import ComponentCompiler.Machine.Disk
import ComponentCompiler.Surroundings

/-!
# A machine

Everything that the compiler can see and change, as one value: a disk, a clock, an environment,
and what was written. On it the operations on files, the journal and the terminal are functions
of a state. Every change of the disk takes the clock a step further.
-/

namespace ComponentCompiler

/-- What stands on the standard error output. -/
inductive Notice where
  | event (event : Event)
  | line (text : String)
  deriving DecidableEq, Repr

/-- The lines of a notice on the error output, with the time in front of an event. -/
def Notice.lines (time : String) : Notice → List String
  | event e => split (time ++ " " ++ e.line)
  | line text => split text
where
  split (s : String) : List String := (Text.lines (s.toList ++ ['\n'])).map String.ofList

/-- A program that notes every line that it is sent in a file and answers it with the next of
its replies. It is done when there is none left. A reply is absent if it is no text. -/
structure Servant where
  log : Option Path
  replies : List (Option String)
  running : Bool := true
  deriving Repr, Inhabited

structure Machine where
  disk : Disk := {}
  /-- The place that relative paths start from. -/
  here : Place := []
  /-- The seconds on the clock. -/
  clock : Nat := 0
  environment : List (String × String) := []
  shown : LogLevel := .trace
  /-- The notices, the last one first. -/
  notices : List Notice := []
  /-- The parts of the output, the last one first. -/
  output : List String := []
  /-- The programs that were started. -/
  servants : List Servant := []
  deriving Inhabited

namespace Machine

def now (machine : Machine) : Timestamp := ⟨machine.clock, 0⟩

/-- A machine with a changed disk, one second later. -/
def withDisk (machine : Machine) (disk : Disk) : Machine :=
  { machine with disk, clock := machine.clock + 1 }

/-- Changes the disk, unless that fails. -/
def change (machine : Machine) (result : Except FileError Disk) :
    Except FileError Unit × Machine :=
  match result with
  | .ok disk => (.ok (), machine.withDisk disk)
  | .error e => (.error e, machine)

/-- The path of the working place. -/
def workingPath (machine : Machine) : Path := ⟨"/" ++ String.intercalate "/" machine.here⟩

/-- Puts a file on the disk, in directories that are made for it. -/
def writeFile (machine : Machine) (path : Path) (content : Content) : Machine :=
  let (_, disk) := match path.parent? with
    | some parent => machine.disk.makeDirectories machine.here parent machine.now
    | none => (.ok (), machine.disk)
  ((machine.withDisk disk).change (disk.writeFile machine.here path content machine.now)).2

/-- Sets when a file or directory was modified. -/
def touch (machine : Machine) (path : Path) (time : Timestamp) : Machine :=
  match machine.disk.find machine.here path with
  | .ok (place, _) => machine.withDisk (machine.disk.touch place time)
  | .error _ => machine

variable {m : Type → Type} [Monad m] [MonadStateOf Machine m]

instance : Files m where
  readText path := do
    let s ← get
    return s.disk.readText s.here path
  writeText path content := modifyGet fun s =>
    s.change (s.disk.writeFile s.here path (.text content) s.now)
  makeDirectories path := modifyGet fun s =>
    let (result, disk) := s.disk.makeDirectories s.here path s.now
    (result, s.withDisk disk)
  entries path := do
    let s ← get
    return s.disk.entries s.here path
  remove path := modifyGet fun s => s.change (s.disk.remove s.here path s.now)
  isFile path := do
    let s ← get
    return s.disk.isFile s.here path
  pathExists path := do
    let s ← get
    return (s.disk.find s.here path).isOk
  modified path := do
    let s ← get
    return ((s.disk.find s.here path).map fun found => found.2.modified).toOption

instance : Journal m where
  record event := modify fun s =>
    if event.level.shownAt s.shown then { s with notices := .event event :: s.notices } else s
  showLevel level := modify fun s => { s with shown := level }

instance : Terminal m where
  workingDirectory := return .ok (← get).workingPath
  variableValue name := return Keyed.get? name (← get).environment
  print text := modify fun s => { s with output := text :: s.output }
  complain text := modify fun s => { s with notices := .line text :: s.notices }

end Machine
end ComponentCompiler
