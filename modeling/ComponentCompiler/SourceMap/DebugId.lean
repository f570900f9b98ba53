import ComponentCompiler.Json.Parser
import ComponentCompiler.Json.Record

/-!
# Debug identifiers

A map may name the build that it belongs to by a number of 128 bits and another one of 32 bits, the
appendix. Both are written in hexadecimal digits: the first in five groups with hyphens between
them, the second after one more hyphen unless it is zero. All hyphens may be missing in what is
read, and the case of the digits does not count.
-/

namespace ComponentCompiler

structure DebugId where
  number : Nat
  appendix : Nat := 0
  deriving DecidableEq, Repr

namespace DebugId

/-- How many digits the groups have. -/
def groups : List Nat := [8, 4, 4, 4, 12]

/-- Digits of a fixed count, which go on with a number. -/
def digits? : (count : Nat) → (value : Nat) → List Char → Option (Nat × List Char)
  | 0, value, s => some (value, s)
  | _ + 1, _, [] => none
  | count + 1, value, c :: s => do digits? count (16 * value + (← Json.hexValue? c)) s

/-- Groups of digits with hyphens between them, which go on with a number. -/
def groups? : List Nat → (value : Nat) → List Char → Option (Nat × List Char)
  | [], value, s => some (value, s)
  | [count], value, s => digits? count value s
  | count :: next :: rest, value, s => do
    match ← digits? count value s with
    | (value, '-' :: s) => groups? (next :: rest) value s
    | _ => none

/-- The number of an appendix: at least one digit, with an optional plus sign. -/
def appendix? (s : List Char) : Option Nat := do
  let digits := match s with
    | '+' :: rest => rest
    | s => s
  let value ← digits.foldlM (fun n c => (Json.hexValue? c).map (16 * n + ·)) 0
  if digits.isEmpty || 2 ^ 32 ≤ value then none else return value

def ofText? (text : String) : Option DebugId := do
  let s := text.toList
  let hyphens := s[8]? == some '-'
  let (number, rest) ← if hyphens then groups? groups 0 s else digits? 32 0 s
  match hyphens, rest with
  | _, [] => return ⟨number, 0⟩
  | true, '-' :: rest => return ⟨number, ← appendix? rest⟩
  | true, _ => none
  | false, rest => return ⟨number, ← appendix? rest⟩

/-- Cuts a text into groups, each after a hyphen. -/
def grouped : List Nat → List Char → List Char
  | [], _ => []
  | count :: rest, s => '-' :: s.take count ++ grouped rest (s.drop count)

def text (id : DebugId) : String :=
  let digits := Nat.toDigits 16 id.number
  let number := grouped groups (List.replicate (32 - digits.length) '0' ++ digits)
  let appendix := if id.appendix = 0 then [] else '-' :: Nat.toDigits 16 id.appendix
  String.ofList (number.drop 1 ++ appendix)

def ofJson? (value : Json) : Option DebugId := value.asText?.bind ofText?

end DebugId
end ComponentCompiler
