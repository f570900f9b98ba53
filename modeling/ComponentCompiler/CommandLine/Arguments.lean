import ComponentCompiler.Path

/-!
# Arguments of the command line

A command line has levels: the program, a command, and perhaps an action of the command. At every
level the settings that hold for all commands may be given, each once, and the two opposite ones
not together; of a setting given at several levels the innermost counts. Words are commands,
actions or files. Two hyphens end the options.
-/

namespace ComponentCompiler.CommandLine

inductive CacheTask where
  | status
  | clean
  deriving DecidableEq, Repr

inductive Command where
  /-- Builds the module of a component and prints it, or writes it to a file. -/
  | compile (file : Path) (output : Option Path)
  | cache (action : CacheTask)
  /-- Prints the configuration in effect. -/
  | config
  deriving DecidableEq, Repr

/-- The settings that hold for all commands. -/
structure Settings where
  quiet : Bool := false
  verbose : Bool := false
  /-- A configuration file in place of the project's. -/
  config : Option Path := none
  deriving DecidableEq, Repr, Inhabited

/-- What a command line asks for. -/
inductive Request where
  | run (settings : Settings) (command : Command)
  | help
  | version
  deriving DecidableEq, Repr

/-- Why reading a command line ends early. -/
inductive Stop where
  | help
  | version
  | misuse
  deriving DecidableEq, Repr

/-- What may stand at a level beside the settings. -/
structure Level where
  /-- Whether the version can be asked for. -/
  version : Bool := false
  /-- Whether an output file can be named. -/
  output : Bool := false
  /-- Whether words are files, and not commands. -/
  file : Bool := false

/-- What was read at a level. -/
structure Seen where
  settings : Settings := {}
  output : Option Path := none
  file : Option Path := none
  deriving Repr, Inhabited

/-- The options that stand alone. -/
inductive Switch where
  | quiet
  | verbose
  | help
  | version
  deriving DecidableEq, Repr

/-- The options with a value. -/
inductive Setting where
  | config
  | output
  deriving DecidableEq, Repr

/-- An option of a level. -/
inductive Flag where
  | switch (switch : Switch)
  | setting (setting : Setting)
  deriving DecidableEq, Repr

namespace Level

/-- The option with a long name. -/
def long? (level : Level) (name : List Char) : Option Flag :=
  match String.ofList name with
  | "quiet" => some (.switch .quiet)
  | "verbose" => some (.switch .verbose)
  | "help" => some (.switch .help)
  | "version" => if level.version then some (.switch .version) else none
  | "config" => some (.setting .config)
  | "output" => if level.output then some (.setting .output) else none
  | _ => none

/-- The option with a short name. -/
def short? (level : Level) (name : Char) : Option Flag :=
  match name with
  | 'q' => some (.switch .quiet)
  | 'v' => some (.switch .verbose)
  | 'h' => some (.switch .help)
  | 'V' => if level.version then some (.switch .version) else none
  | 'o' => if level.output then some (.setting .output) else none
  | _ => none

end Level

namespace Seen

/-- Notes a path that may be given once and is not empty. -/
def once (old : Option Path) (value : List Char) : Except Stop (Option Path) :=
  if old.isSome || value.isEmpty then .error .misuse else .ok (some ⟨String.ofList value⟩)

def switch (seen : Seen) : Switch → Except Stop Seen
  | .quiet =>
    if seen.settings.quiet then .error .misuse
    else .ok { seen with settings := { seen.settings with quiet := true } }
  | .verbose =>
    if seen.settings.verbose then .error .misuse
    else .ok { seen with settings := { seen.settings with verbose := true } }
  | .help => .error .help
  | .version => .error .version

def setting (seen : Seen) (value : List Char) : Setting → Except Stop Seen
  | .config => do
    let config ← once seen.settings.config value
    return { seen with settings := { seen.settings with config } }
  | .output => return { seen with output := ← once seen.output value }

/-- Notes a word that is a file. -/
def word (seen : Seen) (value : String) : Except Stop Seen :=
  return { seen with file := ← once seen.file value.toList }

/-- Settings that contradict each other. -/
def isContradictory (seen : Seen) : Bool := seen.settings.quiet && seen.settings.verbose

end Seen

/-- Whether an argument is an option or ends the options; a single hyphen is a word. -/
def isOption (argument : String) : Bool :=
  match argument.toList with
  | '-' :: _ :: _ => true
  | _ => false

/-- A long option, without its hyphens; the result tells whether the next argument is its
value. -/
def readLong (level : Level) (seen : Seen) (s : List Char) :
    Except Stop (Seen × Option Setting) :=
  match level.long? (s.takeWhile (· != '=')), s.dropWhile (· != '=') with
  | some (.switch switch), [] => return (← seen.switch switch, none)
  | some (.setting setting), [] => return (seen, some setting)
  | some (.setting setting), _ :: value => return (← seen.setting value setting, none)
  | _, _ => .error .misuse

/-- Short options written together; one with a value takes the rest as its value. -/
def readShort (level : Level) : Seen → List Char → Except Stop (Seen × Option Setting)
  | seen, [] => .ok (seen, none)
  | seen, name :: rest =>
    match level.short? name, rest with
    | some (.switch switch), rest => do readShort level (← seen.switch switch) rest
    | some (.setting setting), [] => .ok (seen, some setting)
    | some (.setting setting), '=' :: value => return (← seen.setting value setting, none)
    | some (.setting setting), value => return (← seen.setting value setting, none)
    | none, _ => .error .misuse

/-- An argument that is an option. -/
def readOption (level : Level) (seen : Seen) (argument : String) :
    Except Stop (Seen × Option Setting) :=
  match argument.toList with
  | '-' :: '-' :: name => readLong level seen name
  | _ :: names => readShort level seen names
  | [] => .error .misuse

/-- The words after the options have ended. -/
def readWords (level : Level) (seen : Seen) (words : List String) :
    Except Stop (Seen × List String) :=
  if level.file then return (← words.foldlM Seen.word seen, [])
  else if words.isEmpty then .ok (seen, [])
  else .error .misuse

/-- Reads one level; what follows starts with the word for the next one. -/
def readLevel (level : Level) : (waiting : Option Setting) → Seen → List String →
    Except Stop (Seen × List String)
  | some _, _, [] => .error .misuse
  | none, seen, [] => .ok (seen, [])
  | some setting, seen, argument :: rest =>
    if isOption argument then .error .misuse
    else do readLevel level none (← seen.setting argument.toList setting) rest
  | none, seen, argument :: rest =>
    if argument = "--" then
      readWords level seen rest
    else if isOption argument then do
      let (seen, waiting) ← readOption level seen argument
      readLevel level waiting seen rest
    else if level.file then do
      readLevel level none (← seen.word argument) rest
    else
      .ok (seen, argument :: rest)

/-- The settings of an outer level under those of an inner one. -/
def Settings.under (outer inner : Settings) : Settings where
  quiet := outer.quiet || inner.quiet
  verbose := outer.verbose || inner.verbose
  config := inner.config.orElse fun _ => outer.config

/-- A level that is the last one. -/
def readLast (level : Level) (arguments : List String) : Except Stop Seen := do
  let (seen, rest) ← readLevel level none {} arguments
  if seen.isContradictory || !rest.isEmpty then throw .misuse
  return seen

def actionOf? : String → Option CacheTask
  | "status" => some .status
  | "clean" => some .clean
  | _ => none

/-- Whether words name a command, or an action of one. -/
def isCommand : List String → Bool
  | ["cache", "status"] | ["cache", "clean"] | ["cache", "help"] => true
  | [word] => ["compile", "cache", "config", "help"].contains word
  | words => words.isEmpty

/-- Help is only given for the program and for what is a command. -/
def helpFor (words : List String) : Stop := if isCommand words then .help else .misuse

def readCache (arguments : List String) : Except Stop (Settings × Command) := do
  match ← readLevel {} none {} arguments with
  | (_, "help" :: words) => throw (helpFor ("cache" :: words))
  | (seen, word :: rest) =>
    match actionOf? word with
    | none => throw .misuse
    | some action =>
      let inner ← readLast {} rest
      if seen.isContradictory then throw .misuse
      return (seen.settings.under inner.settings, .cache action)
  | (_, []) => throw .misuse

def readCommand (name : String) (arguments : List String) : Except Stop (Settings × Command) := do
  match name with
  | "compile" =>
    let seen ← readLast { output := true, file := true } arguments
    match seen.file with
    | some file => return (seen.settings, .compile file seen.output)
    | none => throw .misuse
  | "cache" => readCache arguments
  | "config" => return ((← readLast {} arguments).settings, .config)
  | "help" => throw (helpFor arguments)
  | _ => throw .misuse

/-- Reads a command line. -/
def read (arguments : List String) : Except Stop (Settings × Command) := do
  match ← readLevel { version := true } none {} arguments with
  | (_, []) => throw .misuse
  | (seen, name :: rest) =>
    let (inner, command) ← readCommand name rest
    if seen.isContradictory then throw .misuse
    return (seen.settings.under inner, command)

/-- What a command line asks for; none if it is not well-formed. -/
def request? (arguments : List String) : Option Request :=
  match read arguments with
  | .ok (settings, command) => some (.run settings command)
  | .error .help => some .help
  | .error .version => some .version
  | .error .misuse => none

end ComponentCompiler.CommandLine
