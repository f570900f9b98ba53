import ComponentCompiler.Decimal.Binary64
import ComponentCompiler.Keyed

/-!
# JSON values

A value as a document holds it: the members of an object keep their order and may repeat a key.
The canonical form of a value sorts the members of every object by key and keeps the last of
equal keys; this is the form in which values of unknown shape are passed on.

A value of a known type uses some members of an object and takes no notice of others. A shape says
which. What is of no interest only has to be JSON: its numbers may be too large, its strings may
have no text, and it may be nested as deeply as it likes.
-/

namespace ComponentCompiler

/-- A JSON value. Integers and floating-point numbers are told apart. -/
inductive Json where
  | null
  | bool (value : Bool)
  | integer (value : Int)
  | float (value : Binary64)
  | text (value : String)
  | array (items : List Json)
  | object (members : List (String × Json))
  deriving Inhabited, BEq, Repr

namespace Json

mutual

/-- Sorts the members of every object in a value. -/
def canonical : Json → Json
  | array items => array (canonicalItems items)
  | object members => object (Keyed.sorted (canonicalMembers members))
  | other => other

def canonicalItems : List Json → List Json
  | [] => []
  | item :: rest => canonical item :: canonicalItems rest

def canonicalMembers : List (String × Json) → List (String × Json)
  | [] => []
  | (key, value) :: rest => (key, canonical value) :: canonicalMembers rest

end

mutual

/-- Changes every text and every key in a value. -/
def mapTexts (f : String → String) : Json → Json
  | text s => text (f s)
  | array items => array (mapItemTexts f items)
  | object members => object (mapMemberTexts f members)
  | other => other

def mapItemTexts (f : String → String) : List Json → List Json
  | [] => []
  | item :: rest => mapTexts f item :: mapItemTexts f rest

def mapMemberTexts (f : String → String) : List (String × Json) → List (String × Json)
  | [] => []
  | (key, value) :: rest => (f key, mapTexts f value) :: mapMemberTexts f rest

end

mutual

/-- How many arrays and objects stand inside each other at most. -/
def depth : Json → Nat
  | array items => depthItems items + 1
  | object members => depthMembers members + 1
  | _ => 0

def depthItems : List Json → Nat
  | [] => 0
  | item :: rest => max (depth item) (depthItems rest)

def depthMembers : List (String × Json) → Nat
  | [] => 0
  | (_, value) :: rest => max (depth value) (depthMembers rest)

end

/-- The parts of a value that are of interest. -/
inductive Shape where
  | nothing
  | whole
  /-- Members of an object, or the items of a list in the order of the keys. -/
  | record (fields : List (String × Shape))
  /-- The same parts of every item of a list. -/
  | list (item : Shape)
  /-- The same parts of every member of an object. -/
  | entries (value : Shape)
  deriving Inhabited

namespace Shape

/-- A record whose members are all of interest as a whole. -/
def plain (keys : List String) : Shape := record (keys.map fun key => (key, whole))

/-- The keys of a record. -/
def keys : Shape → List String
  | record fields => fields.map (·.1)
  | _ => []

def isNothing : Shape → Bool
  | nothing => true
  | _ => false

/-- What is of interest in the member with a key. -/
def member : Shape → String → Shape
  | nothing, _ => nothing
  | record fields, key => (Keyed.get? key fields).getD nothing
  | entries value, _ => value
  | _, _ => whole

/-- What is of interest in the item with an index. -/
def item : Shape → Nat → Shape
  | nothing, _ => nothing
  | record fields, index => ((fields[index]?).map (·.2)).getD whole
  | list item, _ => item
  | _, _ => whole

end Shape

/-- Types with a JSON form. -/
class Readable (α : Type) where
  shape : Shape
  ofJson? : Json → Option α

/-- A value of unknown shape is passed on in its canonical form. -/
def passedOn (value : Json) : Option Json := some value.canonical

instance : Readable Json := ⟨.whole, passedOn⟩

end Json
end ComponentCompiler
