import ComponentCompiler.Decimal.Shortest
import ComponentCompiler.Keyed

/-!
# Values of configuration documents

A document is a table of values: texts, numbers, switches, dates, lists and further tables.
Floating-point numbers include the infinities and the numbers that are none.
-/

namespace ComponentCompiler

/-- A floating-point number of a document. -/
inductive TomlFloat where
  | finite (value : Binary64)
  | infinite (negative : Bool)
  | undefined (negative : Bool)
  deriving DecidableEq, Repr

/-- Numbers are compared by value; an undefined one differs from every number. -/
def TomlFloat.same : TomlFloat → TomlFloat → Bool
  | finite x, finite y => x.same y
  | infinite x, infinite y => x == y
  | _, _ => false

/-- A day and a time of day, either of which may be missing, with the distance from universal
time in minutes; no distance at all stands for universal time itself. -/
structure TomlDate where
  day : Option (Nat × Nat × Nat)
  time : Option (Nat × Nat × Nat × Nat)
  offset : Option (Option Int)
  deriving DecidableEq, Repr

namespace TomlDate

/-- A number with zeros in front of it up to a width. -/
def padded (width n : Nat) : List Char :=
  let digits := Nat.toDigits 10 n
  List.replicate (width - digits.length) '0' ++ digits

def dayChars (day : Nat × Nat × Nat) : List Char :=
  padded 4 day.1 ++ '-' :: padded 2 day.2.1 ++ '-' :: padded 2 day.2.2

/-- Zeros at the end of a fraction of a second are not written. -/
def timeChars (time : Nat × Nat × Nat × Nat) : List Char :=
  let (hour, minute, second, nanosecond) := time
  let fraction := ((padded 9 nanosecond).reverse.dropWhile (· == '0')).reverse
  padded 2 hour ++ ':' :: padded 2 minute ++ ':' :: padded 2 second ++
    (if nanosecond = 0 then [] else '.' :: fraction)

def offsetChars : Option Int → List Char
  | none => ['Z']
  | some minutes =>
    (if minutes < 0 then '-' else '+') ::
      (padded 2 (minutes.natAbs / 60) ++ ':' :: padded 2 (minutes.natAbs % 60))

def text (date : TomlDate) : String :=
  String.ofList ((date.day.map dayChars).getD [] ++
    (if date.day.isSome && date.time.isSome then ['T'] else []) ++
    (date.time.map timeChars).getD [] ++ (date.offset.map offsetChars).getD [])

end TomlDate

inductive Toml where
  | text (value : String)
  | integer (value : Int)
  | float (value : TomlFloat)
  | boolean (value : Bool)
  | date (value : TomlDate)
  | array (items : List Toml)
  | table (entries : List (String × Toml))
  deriving Inhabited, Repr

namespace Toml

mutual

/-- Equality of values; entries are compared in their order. -/
def same : Toml → Toml → Bool
  | text a, text b => a == b
  | integer a, integer b => a == b
  | float a, float b => a.same b
  | boolean a, boolean b => a == b
  | date a, date b => a == b
  | array a, array b => sameItems a b
  | table a, table b => sameEntries a b
  | _, _ => false

def sameItems : List Toml → List Toml → Bool
  | [], [] => true
  | a :: as, b :: bs => same a b && sameItems as bs
  | _, _ => false

def sameEntries : List (String × Toml) → List (String × Toml) → Bool
  | [], [] => true
  | (k, a) :: as, (l, b) :: bs => k == l && same a b && sameEntries as bs
  | _, _ => false

end

mutual

/-- Sorts the entries of every table by key. -/
def canonical : Toml → Toml
  | array items => array (canonicalItems items)
  | table entries => table (Keyed.sorted (canonicalEntries entries))
  | other => other

def canonicalItems : List Toml → List Toml
  | [] => []
  | item :: rest => canonical item :: canonicalItems rest

def canonicalEntries : List (String × Toml) → List (String × Toml)
  | [] => []
  | (key, value) :: rest => (key, canonical value) :: canonicalEntries rest

end

def isTable : Toml → Bool
  | table _ => true
  | _ => false

/-- A list with a table in it. -/
def holdsTable : Toml → Bool
  | array items => items.any isTable
  | _ => false

end Toml
end ComponentCompiler
