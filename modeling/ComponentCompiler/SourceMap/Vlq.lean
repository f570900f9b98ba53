import ComponentCompiler.Text.Base64

/-!
# Numbers of variable length

Numbers in mappings are written in digits of five bits, least significant first. A sixth bit
tells that more digits follow, and the lowest bit of the whole number is its sign. A character
that is no digit counts, byte by byte, as the greatest digit with more to follow.
-/

namespace ComponentCompiler

/-- Why a source map cannot be read. -/
inductive MapError where
  | expectedNewline
  | malformed
  | unfinishedNumber
  | noNumber
  | numberTooLong
  | segmentSize (count : Nat)
  | sourceReference (id : Nat)
  | nameReference (id : Nat)
  | incompatible
  | base64Character (c : Char)
  deriving DecidableEq, Repr

namespace MapError

/-- What is wrong with the map. -/
def reason : MapError → String
  | expectedNewline => "expected newline"
  | malformed => "bad json"
  | unfinishedNumber => "leftover cur/shift in vlq decode"
  | noNumber => "vlq decode did not produce any values"
  | numberTooLong => "vlq decode caused an overflow"
  | segmentSize count => "got " ++ toString count ++ " segments, expected 4 or 5"
  | sourceReference id => "bad reference to source #" ++ toString id
  | nameReference id => "bad reference to name #" ++ toString id
  | incompatible => "encountered incompatible sourcemap format"
  | base64Character c => "invalid base64 character: " ++ String.singleton c

def message (e : MapError) : String := "invalid source map: " ++ e.reason

end MapError

namespace Vlq

/-- A digit of five bits, and whether more follow. -/
structure Digit where
  bits : Nat
  more : Bool
  deriving DecidableEq, Repr

/-- The natural number that carries a number and its sign. -/
def signed (n : Int) : Nat := if n < 0 then 2 * n.natAbs + 1 else 2 * n.natAbs

/-- The digits of a natural number. -/
def digits (n : Nat) : List Digit :=
  if h : n < 32 then [⟨n, false⟩] else ⟨n % 32, true⟩ :: digits (n / 32)
termination_by n
decreasing_by omega

def Digit.char (d : Digit) : Char := Text.Base64.digit (if d.more then d.bits + 32 else d.bits)

def encode (n : Int) : List Char := (digits (signed n)).map Digit.char

/-- The digits that a character counts as. -/
def digitsOf (c : Char) : List Digit :=
  match Text.Base64.value? c with
  | some n => [⟨n % 32, 32 ≤ n⟩]
  | none => List.replicate c.utf8Size ⟨31, true⟩

/-- The number of 64 bits that a natural number carries with its sign. -/
def unsigned (n : Nat) : Int :=
  let value : Int := if n < 2 ^ 63 then n else n - 2 ^ 64
  if n % 2 = 0 then value / 2 else -(value / 2)

/-- The numbers that digits form. `shift` is the weight of the next digit and `value` what the
digits of the current number add up to. -/
def numbers : List Digit → (shift value : Nat) → Except MapError (List Int)
  | [], shift, _ => if shift = 0 then .ok [] else .error .unfinishedNumber
  | d :: rest, shift, value =>
    if 64 ≤ shift then
      .error .numberTooLong
    else
      let value := (value + d.bits * 2 ^ shift) % 2 ^ 64
      if d.more then
        numbers rest (shift + 5) value
      else
        (numbers rest 0 0).map (unsigned value :: ·)

/-- The numbers of one segment; there is at least one. -/
def decode (segment : List Char) : Except MapError (List Int) := do
  let found ← numbers (segment.flatMap digitsOf) 0 0
  if found.isEmpty then throw .noNumber
  return found

end Vlq
end ComponentCompiler
