import ComponentCompiler.Text.Lines

/-!
# File paths

A path is kept as its text and read as components. Repeated and trailing slashes do not count,
and a dot counts only at the start of a relative path. Joining a path to another keeps both texts
as they are. A path inside a root is stored relative to it, with single slashes between its
names; any other path is stored as its text.
-/

namespace ComponentCompiler

structure Path where
  text : String
  deriving DecidableEq, Repr, Inhabited, Hashable

namespace Path

instance : ToString Path := ⟨Path.text⟩

/-- A part of a path that counts. -/
inductive Component where
  /-- The slash at the start of an absolute path. -/
  | root
  /-- The dot at the start of a relative path. -/
  | here
  /-- Two dots. -/
  | up
  | name (chars : List Char)
  deriving DecidableEq, Repr

/-- A piece between slashes that does not count. -/
def isSilent (piece : List Char) : Bool := piece.isEmpty || piece == ['.']

def isAbsolute (path : Path) : Bool := path.text.toList.head? == some '/'

/-- The component that a piece between slashes stands for. -/
def componentOf (piece : List Char) : Component :=
  if piece = ['.', '.'] then .up else .name piece

/-- The text before the pieces that are read as names: a slash, or a dot that starts a relative
path. -/
def lead (s : List Char) : List Char :=
  match s with
  | '/' :: _ => ['/']
  | ['.'] => ['.']
  | '.' :: '/' :: _ => ['.']
  | _ => []

/-- The component of the leading text. -/
def leadComponents (s : List Char) : List Component :=
  match lead s with
  | ['/'] => [.root]
  | ['.'] => [.here]
  | _ => []

/-- The pieces after the leading text. -/
def body (s : List Char) : List (List Char) := Text.pieces '/' (s.drop (lead s).length)

def components (path : Path) : List Component :=
  let s := path.text.toList
  leadComponents s ++ ((body s).filter (!isSilent ·)).map componentOf

/-- Appends a path: an absolute one replaces, any other is put after a slash. -/
def join (path other : Path) : Path :=
  if other.isAbsolute || path.text.isEmpty then
    other
  else if path.text.toList.getLast? = some '/' then
    ⟨path.text ++ other.text⟩
  else
    ⟨path.text ++ "/" ++ other.text⟩

/-- The components that follow those of a root. -/
def inside? (root path : Path) : Option (List Component) :=
  strip root.components path.components
where
  strip : List Component → List Component → Option (List Component)
    | [], rest => some rest
    | _ :: _, [] => none
    | c :: cs, d :: ds => if c = d then strip cs ds else none

/-- The text of a component in a slashed path; the start of a path has none. -/
def Component.chars? : Component → Option (List Char)
  | .name chars => some chars
  | .up => some ['.', '.']
  | .root | .here => none

/-- Names and double dots with single slashes between them. -/
def slashedComponents (components : List Component) : String :=
  String.ofList (Text.joined ['/'] (components.filterMap Component.chars?))

def slashed (path : Path) : String := slashedComponents path.components

/-- The form in which a path is recorded: relative to the root if it lies inside. -/
def stored (root path : Path) : String :=
  match inside? root path with
  | some rest => slashedComponents rest
  | none => path.text

/-- The path without its last component; the root and the empty path have no parent. -/
def parent? (path : Path) : Option Path :=
  let s := path.text.toList
  match (Text.dropTail isSilent (body s)).reverse with
  | [] => if lead s = ['.'] then some ⟨""⟩ else none
  | _ :: kept =>
    some ⟨String.ofList
      (lead s ++ Text.joined ['/'] (Text.dropTail isSilent kept.reverse))⟩

/-- The path, its parent, the parent of that, and so on. -/
def ancestors (path : Path) : List Path := climb (path.text.length + 2) path
where
  climb : Nat → Path → List Path
    | 0, _ => []
    | fuel + 1, path =>
      path :: match path.parent? with
        | some parent => climb fuel parent
        | none => []

end Path
end ComponentCompiler
