import ComponentCompiler.Json.Basic

/-!
# Records in JSON

A record is an object with known keys. A known key stands at most once, and other keys mean
nothing. A member is required, optional, in which case null counts as absent, or has a default,
in which case null does not fit. A record may also be written as the list of its values in the
order of the keys; of the list, only members with a default may be left out, at the end.
-/

namespace ComponentCompiler.Json

/-- The members of an object. -/
abbrev Members := List (String × Json)

/-- The members of an object with the given keys. -/
def fields? (keys : List String) : Json → Option Members
  | object members =>
    if keys.all fun key => (members.filter fun member => member.1 == key).length ≤ 1 then
      some members
    else
      none
  | _ => none

/-- The members of a record, of which a list has at least the first `least`. -/
def record? (shape : Shape) (least : Nat) : Json → Option Members
  | array items =>
    let keys := shape.keys
    if least ≤ items.length && items.length ≤ keys.length then some (keys.zip items) else none
  | value => value.fields? shape.keys

namespace Members

variable {α : Type}

def required? (members : Members) (key : String) (decode : Json → Option α) : Option α :=
  (Keyed.get? key members).bind decode

def optional? (members : Members) (key : String) (decode : Json → Option α) :
    Option (Option α) :=
  match Keyed.get? key members with
  | none => some none
  | some null => some none
  | some value => (decode value).map some

def defaulted? (members : Members) (key : String) (default : α) (decode : Json → Option α) :
    Option α :=
  match Keyed.get? key members with
  | none => some default
  | some value => decode value

end Members

def asText? : Json → Option String
  | text s => some s
  | _ => none

def asBool? : Json → Option Bool
  | bool b => some b
  | _ => none

/-- A whole number below a limit. -/
def asNatural? (limit : Nat) : Json → Option Nat
  | integer n => if 0 ≤ n && n < limit then some n.toNat else none
  | _ => none

/-- A number of any kind as a floating-point one. -/
def asNumber? : Json → Option Binary64
  | float x => some x
  | integer n => Binary64.ofRatio? (n < 0) n.natAbs 1
  | _ => none

def asArray? : Json → Option (List Json)
  | array items => some items
  | _ => none

/-- A list of values of one kind. -/
def asList? {α : Type} (decode : Json → Option α) : Json → Option (List α)
  | array items => items.mapM decode
  | _ => none

/-- A value or null. -/
def asOptional? {α : Type} (decode : Json → Option α) : Json → Option (Option α)
  | null => some none
  | value => (decode value).map some

def asObject? : Json → Option Members
  | object members => some members
  | _ => none

/-- One of a list of names: its text, or an object with the name as its only key and null
there. -/
def asName? : Json → Option String
  | text s => some s
  | object [(name, null)] => some name
  | _ => none

instance : Readable String := ⟨.whole, asText?⟩

instance {α : Type} [Readable α] : Readable (Option α) :=
  ⟨Readable.shape α, asOptional? Readable.ofJson?⟩

/-- A member that is written only if there is a value. -/
def member? (key : String) (value : Option Json) : Members :=
  (value.map fun v => (key, v)).toList

/-- A value, or null for none. -/
def ofOption : Option Json → Json
  | some value => value
  | none => null

def ofText? (s : Option String) : Json := ofOption (s.map text)

end ComponentCompiler.Json
