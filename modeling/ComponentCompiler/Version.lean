import ComponentCompiler.Text.Lines
import ComponentCompiler.Text.Word

/-!
# Compiler versions

A version is read from up to three numbers at the start of its text; what follows a hyphen or a
plus sign is kept in the text only. Missing numbers are zero, and each number is below `2 ^ 32`.
Two generations of compilers are told apart by the first number.
-/

namespace ComponentCompiler

structure Version where
  raw : String
  major : Nat
  minor : Nat
  patch : Nat
  deriving DecidableEq, Repr, Inhabited

namespace Version

/-- The text, without the blanks around it, that is no version. -/
structure ParseError where
  input : String
  deriving DecidableEq, Repr

def ParseError.message (e : ParseError) : String := "invalid compiler version: '" ++ e.input ++ "'"

/-- One more than the greatest number in a version. -/
def numberLimit : Nat := 2 ^ 32

/-- A non-empty run of ASCII digits with a value below the limit. -/
def number? (digits : List Char) : Option Nat :=
  if digits.isEmpty || !digits.all Text.isAsciiDigit then
    none
  else
    let value := digits.foldl (fun n c => 10 * n + (c.toNat - 48)) 0
    if value < numberLimit then some value else none

/-- The part of a version that is read for numbers. -/
def core (s : List Char) : List Char := s.takeWhile fun c => c != '-' && c != '+'

/-- The number in front of the other parts, zero if there is none. -/
def nextNumber? : List (List Char) → Option (Nat × List (List Char))
  | [] => some (0, [])
  | part :: rest => (number? part).map (·, rest)

def numbers? (s : List Char) : Option (Nat × Nat × Nat) := do
  let (major, rest) ← nextNumber? (Text.pieces '.' (core s))
  let (minor, rest) ← nextNumber? rest
  let (patch, _) ← nextNumber? rest
  return (major, minor, patch)

def parse (text : String) : Except ParseError Version :=
  let raw := Text.trimmed text
  match numbers? raw.toList with
  | some (major, minor, patch) => .ok ⟨raw, major, minor, patch⟩
  | none => .error ⟨raw⟩

/-- Whether the first two numbers reach the given ones. -/
def atLeast (v : Version) (major minor : Nat) : Bool :=
  decide (major < v.major ∨ (v.major = major ∧ minor ≤ v.minor))

/-- The generations of compilers. -/
inductive Variant where
  | legacy
  | modern
  deriving DecidableEq, Repr

/-- The generation of a compiler; versions before 2 belong to none. -/
def variant? (v : Version) : Option Variant :=
  if v.major = 2 then some .legacy
  else if 3 ≤ v.major then some .modern
  else none

/-- Whether compilers of a generation know components that are all setup code. -/
def Variant.supportsSetup (variant : Variant) (v : Version) : Bool :=
  match variant with
  | .legacy => v.atLeast 2 7
  | .modern => true

end Version
end ComponentCompiler
