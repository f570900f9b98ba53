import ComponentCompiler.Config.Basic

/-!
# The journal

What the compiler tells about its work, as events with a level, a message and named values. Which
levels are shown is settled by whoever keeps the journal.
-/

namespace ComponentCompiler

/-- How important an event is; the most important first. -/
inductive EventLevel where
  | error
  | warn
  | info
  | debug
  deriving DecidableEq, Repr, Inhabited

namespace EventLevel

def name : EventLevel → String
  | error => "ERROR"
  | warn => "WARN"
  | info => "INFO"
  | debug => "DEBUG"

/-- Whether a log level shows events of this level. -/
def shownAt : EventLevel → LogLevel → Bool
  | _, .silent => false
  | error, _ => true
  | _, .error => false
  | warn, _ => true
  | _, .warn => false
  | info, _ => true
  | _, .info => false
  | debug, _ => true

end EventLevel

structure Event where
  level : EventLevel
  message : String
  /-- The names and values, in the order in which they are shown. -/
  fields : List (String × String) := []
  deriving DecidableEq, Repr, Inhabited

/-- A character of a message, by its number if a terminal could take it for a command. -/
def Event.shownChar (c : Char) : List Char :=
  let digits := Nat.toDigits 16 c.toNat
  if ['\x07', '\x08', '\x0c', '\x1b', '\x7f'].contains c then
    ['\\', 'x'] ++ List.replicate (2 - digits.length) '0' ++ digits
  else if 0x80 ≤ c.toNat && c.toNat < 0xA0 then
    ['\\', 'u', '{'] ++ digits ++ ['}']
  else
    [c]

/-- The line of an event, after the time: the level, padded to five places, the message and the
values. -/
def Event.line (event : Event) : String :=
  let level := event.level.name
  String.ofList (List.replicate (5 - level.length) ' ') ++ level ++ " " ++
    String.ofList (event.message.toList.flatMap Event.shownChar) ++
    String.join (event.fields.map fun field => " " ++ field.1 ++ "=" ++ field.2)

/-- A place for events. -/
class Journal (m : Type → Type) where
  record : Event → m Unit
  /-- Settles which events are shown from now on. -/
  showLevel : LogLevel → m Unit

instance {m : Type → Type} {ε : Type} [Monad m] [Journal m] : Journal (ExceptT ε m) where
  record event := ExceptT.lift (Journal.record event)
  showLevel level := ExceptT.lift (Journal.showLevel level)

namespace Journal

variable {m : Type → Type} [Journal m]

def debug (message : String) (fields : List (String × String) := []) : m Unit :=
  record ⟨.debug, message, fields⟩

def info (message : String) (fields : List (String × String) := []) : m Unit :=
  record ⟨.info, message, fields⟩

def error (message : String) (fields : List (String × String) := []) : m Unit :=
  record ⟨.error, message, fields⟩

end Journal

/-- The field that names a file. -/
def fileField (path : Path) : String × String := ("file", path.text)

end ComponentCompiler
