import ComponentCompiler.Files
import ComponentCompiler.Keyed

/-!
# A disk

A disk is a tree of directories and files. A path is walked piece by piece from the root or from
a working place; every piece, also an empty one or a dot, needs a directory to stand in, so a
slash at the end of a path demands one. Whoever adds or removes an entry modifies its directory.
-/

namespace ComponentCompiler

/-- The names on the way from the root to a file or directory. -/
abbrev Place := List String

/-- What a file holds: a text, or bytes that are none. -/
inductive Content where
  | text (text : String)
  | bytes (bytes : List UInt8)
  deriving DecidableEq, Repr

namespace Content

/-- Bytes are a text where they can be one. -/
def ofBytes (bytes : List UInt8) : Content :=
  match String.fromUTF8? ⟨bytes.toArray⟩ with
  | some s => .text s
  | none => .bytes bytes

def text? : Content → Option String
  | .text s => some s
  | .bytes _ => none

/-- The lines that are finished by a line feed; a line is absent if it is no text. -/
def finishedLines : Content → List (Option String)
  | .text s => ((Text.pieces '\n' s.toList).dropLast).map fun line => some (String.ofList line)
  | .bytes bs => ((Text.pieces 10 bs).dropLast).map fun line => (ofBytes line).text?

end Content

inductive Node where
  | file (content : Content) (modified : Timestamp)
  | directory (modified : Timestamp)
  deriving DecidableEq, Repr

namespace Node

def modified : Node → Timestamp
  | file _ time => time
  | directory time => time

def isDirectory : Node → Bool
  | file .. => false
  | directory _ => true

/-- The same node, modified at another time. -/
def modifiedAt (time : Timestamp) : Node → Node
  | file content _ => file content time
  | directory _ => directory time

end Node

structure Disk where
  nodes : List (Place × Node) := []
  deriving Repr, Inhabited

namespace Disk

/-- The node at a place. The root is always a directory. -/
def node? (disk : Disk) : Place → Option Node
  | [] => some (.directory ⟨0, 0⟩)
  | place => (disk.nodes.find? fun entry => entry.1 == place).map (·.2)

/-- Puts a node at a place. -/
def put (disk : Disk) (place : Place) (node : Node) : Disk :=
  ⟨(place, node) :: disk.nodes.filter fun entry => entry.1 != place⟩

/-- Sets the modification time of what is at a place. -/
def touch (disk : Disk) (place : Place) (time : Timestamp) : Disk :=
  ⟨disk.nodes.map fun entry =>
    if entry.1 = place then (place, entry.2.modifiedAt time) else entry⟩

/-- Adds a node at a new place. -/
def add (disk : Disk) (place : Place) (node : Node) : Disk :=
  (disk.put place node).touch place.dropLast node.modified

/-- Removes a place with everything below it. -/
def drop (disk : Disk) (place : Place) (now : Timestamp) : Disk :=
  (Disk.mk (disk.nodes.filter fun entry => !place.isPrefixOf entry.1)).touch place.dropLast now

/-- The names of the entries of a directory. -/
def names (disk : Disk) (place : Place) : List String :=
  disk.nodes.filterMap fun entry =>
    if entry.1.dropLast == place then entry.1.getLast? else none

/-- Takes one step along a path, from a place that has to be a directory. -/
def step (disk : Disk) (place : Place) (piece : List Char) : Except FileError Place :=
  match disk.node? place with
  | none => .error .notFound
  | some (.file ..) => .error .notDirectory
  | some (.directory _) =>
    if Path.isSilent piece then .ok place
    else if piece = ['.', '.'] then .ok place.dropLast
    else .ok (place ++ [String.ofList piece])

/-- The place at which a path starts, and its pieces. -/
def start (here : Place) (path : Path) : Except FileError (Place × List (List Char)) :=
  let s := path.text.toList
  if s.isEmpty then .error .notFound
  else if s.contains '\x00' then .error .invalidPath
  else if path.isAbsolute then .ok ([], (Text.pieces '/' s).tail)
  else .ok (here, Text.pieces '/' s)

/-- The place that a path leads to; there need not be anything. -/
def locate (disk : Disk) (here : Place) (path : Path) : Except FileError Place := do
  let (place, pieces) ← start here path
  pieces.foldlM disk.step place

/-- What a path leads to. -/
def find (disk : Disk) (here : Place) (path : Path) : Except FileError (Place × Node) := do
  let place ← disk.locate here path
  match disk.node? place with
  | some node => return (place, node)
  | none => throw .notFound

/-- The place for a new entry; none if the path does not end in a name. -/
def place? (disk : Disk) (here : Place) (path : Path) : Except FileError (Option Place) := do
  let (place, pieces) ← start here path
  match (Text.dropTail List.isEmpty pieces).reverse with
  | [] => return none
  | last :: front =>
    let parent ← front.reverse.foldlM disk.step place
    let place ← disk.step parent last
    return if last = ['.'] ∨ last = ['.', '.'] then none else some place

def content (disk : Disk) (here : Place) (path : Path) : Except FileError Content := do
  match ← disk.find here path with
  | (_, .file content _) => return content
  | (_, .directory _) => throw .isDirectory

def readText (disk : Disk) (here : Place) (path : Path) : Except FileError String := do
  match (← disk.content here path).text? with
  | some text => return text
  | none => throw .invalidText

/-- Writes a file. Only a path that ends in a name can be that of a file. -/
def writeFile (disk : Disk) (here : Place) (path : Path) (content : Content)
    (now : Timestamp) : Except FileError Disk := do
  match ← disk.place? here path with
  | none => throw .isDirectory
  | some place =>
    if path.text.toList.getLast? = some '/' then
      throw .isDirectory
    else
      match disk.node? place with
      | some (.directory _) => throw .isDirectory
      | some (.file ..) => return disk.put place (.file content now)
      | none => return disk.add place (.file content now)

def makeDirectory (disk : Disk) (here : Place) (path : Path) (now : Timestamp) :
    Except FileError Disk := do
  match ← disk.place? here path with
  | none => throw .alreadyExists
  | some place =>
    if (disk.node? place).isSome then throw .alreadyExists
    else return disk.add place (.directory now)

def isDirectory (disk : Disk) (here : Place) (path : Path) : Bool :=
  match disk.find here path with
  | .ok (_, node) => node.isDirectory
  | .error _ => false

def isFile (disk : Disk) (here : Place) (path : Path) : Bool :=
  match disk.find here path with
  | .ok (_, node) => !node.isDirectory
  | .error _ => false

/-- A directory that could not be made may be there already. -/
def settle (disk : Disk) (here : Place) (path : Path) (e : FileError) :
    Except FileError Unit × Disk :=
  if disk.isDirectory here path then (.ok (), disk) else (.error e, disk)

/-- Makes the first of some paths a directory; the others are those above it. Directories that
were made stay when a later step fails. -/
def makeAll (here : Place) (now : Timestamp) : List Path → Disk → Except FileError Unit × Disk
  | [], disk => (.error .notFound, disk)
  | path :: above, disk =>
    if path.components.isEmpty then
      (.ok (), disk)
    else
      match disk.makeDirectory here path now with
      | .ok disk => (.ok (), disk)
      | .error .notFound =>
        match makeAll here now above disk with
        | (.error e, disk) => (.error e, disk)
        | (.ok (), disk) =>
          match disk.makeDirectory here path now with
          | .ok disk => (.ok (), disk)
          | .error e => disk.settle here path e
      | .error e => disk.settle here path e

/-- Makes a directory and those above it. -/
def makeDirectories (disk : Disk) (here : Place) (path : Path) (now : Timestamp) :
    Except FileError Unit × Disk :=
  makeAll here now path.ancestors disk

def entries (disk : Disk) (here : Place) (path : Path) : Except FileError (List Path) := do
  match ← disk.find here path with
  | (_, .file ..) => throw .notDirectory
  | (place, .directory _) => return (disk.names place).map fun name => path.join ⟨name⟩

/-- Removes what a path leads to. -/
def remove (disk : Disk) (here : Place) (path : Path) (now : Timestamp) :
    Except FileError Disk := do
  let (place, _) ← disk.find here path
  return disk.drop place now

/-- The paths of the files below a place, in order, relative to it. A directory without entries
has a path that ends in a slash. -/
def tree (disk : Disk) (place : Place) : List String :=
  let below := disk.nodes.filter fun entry => place.isPrefixOf entry.1 && entry.1 != place
  let paths := below.filterMap fun entry =>
    let path := String.intercalate "/" (entry.1.drop place.length)
    if !entry.2.isDirectory then some path
    else if (disk.names entry.1).isEmpty then some (path ++ "/")
    else none
  (Keyed.sorted (paths.map (·, ()))).map (·.1)

end Disk
end ComponentCompiler
