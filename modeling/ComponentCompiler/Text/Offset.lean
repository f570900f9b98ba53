/-!
# Offsets in other units

Positions in a text are counted in bytes of its UTF-8 form or in 16-bit units of its UTF-16
form. A byte offset need not lie between two characters; cutting a text there has no result.

Bytes that are to be a text need not be one. Those that are not part of any character are given a
character that stands in for each of them.
-/

namespace ComponentCompiler.Text

-- Sums of naturals start from the core library's zero, whatever else is imported.
attribute [local instance (20000)] Zero.ofOfNat0

/-- The number of bytes of the UTF-8 form. -/
def byteLength (s : List Char) : Nat := (s.map Char.utf8Size).sum

/-- The number of 16-bit units that one character takes: two above the basic plane. -/
def charUnits (c : Char) : Nat := if c.toNat < 0x10000 then 1 else 2

/-- The number of 16-bit units of the UTF-16 form. -/
def unitLength (s : List Char) : Nat := (s.map charUnits).sum

/-- Cuts a text after a number of bytes; no result inside a character or past the end. -/
def cutAtByte? : List Char → Nat → Option (List Char × List Char)
  | s, 0 => some ([], s)
  | [], _ + 1 => none
  | c :: s, bytes + 1 =>
    if c.utf8Size ≤ bytes + 1 then
      (cutAtByte? s (bytes + 1 - c.utf8Size)).map fun (front, back) => (c :: front, back)
    else
      none

/-- The part of a text between two byte offsets. -/
def betweenBytes? (s : List Char) (start stop : Nat) : Option (List Char) := do
  let (_, back) ← cutAtByte? s start
  let (middle, _) ← if start ≤ stop then cutAtByte? back (stop - start) else none
  return middle

/-- The byte offset of the first character boundary with at least `units` units before it, or
the length of the text. -/
def byteOfUnit : List Char → Nat → Nat
  | [], _ => 0
  | c :: s, units => if units = 0 then 0 else c.utf8Size + byteOfUnit s (units - charUnits c)

/-- The character at the start of some bytes, and how many of them it takes. -/
def characterAt? (bytes : List UInt8) : Option (Char × Nat) :=
  [1, 2, 3, 4].findSome? fun count => do
    let text ← String.fromUTF8? ⟨(bytes.take count).toArray⟩
    return (← text.toList.head?, count)

/-- The characters in some bytes, with `other` for each byte that is part of none. -/
def decodedWith (other : Char) (bytes : List UInt8) : List Char := go 0 bytes
where
  /-- The first bytes belong to a character that is there already. -/
  go : Nat → List UInt8 → List Char
    | _, [] => []
    | taken + 1, _ :: rest => go taken rest
    | 0, byte :: rest =>
      match characterAt? (byte :: rest) with
      | some (c, count) => c :: go (count - 1) rest
      | none => other :: go 0 rest

end ComponentCompiler.Text
