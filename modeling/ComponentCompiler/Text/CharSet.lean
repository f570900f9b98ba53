import ComponentCompiler.Text.Blank

/-!
# Sets of characters

A set of characters is kept as closed ranges of code points that ascend with a gap between each
two. The operations keep that form, so a complement only has to list the gaps. Tables write their
sets as words of hexadecimal digits, `41-5a` for a range and `aa` for a single code point.
-/

namespace ComponentCompiler

/-- A set of characters, as ascending closed ranges of code points with gaps between them. -/
structure CharSet where
  ranges : List (Nat × Nat)
  deriving DecidableEq, Repr, Inhabited

namespace CharSet

/-- The greatest code point. -/
def lastPoint : Nat := 0x10FFFF

def empty : CharSet := ⟨[]⟩

def all : CharSet := ⟨[(0, lastPoint)]⟩

def range (first last : Char) : CharSet := ⟨[(first.toNat, last.toNat)]⟩

def single (c : Char) : CharSet := range c c

def holdsPoint (set : CharSet) (point : Nat) : Bool := Text.inRanges set.ranges point

def holds (set : CharSet) (c : Char) : Bool := set.holdsPoint c.toNat

def isEmpty (set : CharSet) : Bool := set.ranges.isEmpty

/-- Whether all characters of a set are ASCII. -/
def isAscii (set : CharSet) : Bool := set.ranges.all fun range => range.2 < 128

/-- Puts a range before ranges that start no earlier; those that it reaches become part of it. -/
def joinRange (first last : Nat) : List (Nat × Nat) → List (Nat × Nat)
  | [] => [(first, last)]
  | (a, b) :: rest =>
    if a ≤ last + 1 then joinRange first (max last b) rest
    else (first, last) :: joinRange a b rest

/-- Makes ranges with ascending starts one where they overlap or touch. -/
def joined : List (Nat × Nat) → List (Nat × Nat)
  | [] => []
  | (first, last) :: rest => joinRange first last rest

def ofRanges (ranges : List (Nat × Nat)) : CharSet :=
  ⟨joined (ranges.mergeSort fun a b => a.1 ≤ b.1)⟩

def union (a b : CharSet) : CharSet := ofRanges (a.ranges ++ b.ranges)

def unions (sets : List CharSet) : CharSet := ofRanges (sets.flatMap (·.ranges))

/-- The ranges between ascending ranges, from a code point on. -/
def gaps (start : Nat) : List (Nat × Nat) → List (Nat × Nat)
  | [] => if start ≤ lastPoint then [(start, lastPoint)] else []
  | (first, last) :: rest =>
    if start < first then (start, first - 1) :: gaps (last + 1) rest else gaps (last + 1) rest

def complement (set : CharSet) : CharSet := ⟨gaps 0 set.ranges⟩

def intersection (a b : CharSet) : CharSet := (a.complement.union b.complement).complement

def difference (a b : CharSet) : CharSet := (a.complement.union b).complement

/-- The characters in exactly one of two sets. -/
def symmetricDifference (a b : CharSet) : CharSet := (a.difference b).union (b.difference a)

/-- The only character of a set, if it has just one. -/
def only? (set : CharSet) : Option Char :=
  match set.ranges with
  | [(first, last)] => if first = last then some (Char.ofNat first) else none
  | _ => none

/-- The value of hexadecimal digits in lower case. -/
def pointOfDigits (digits : List Char) : Nat :=
  digits.foldl (fun n c => 16 * n + (if c.toNat < 58 then c.toNat - 48 else c.toNat - 87)) 0

/-- The range that a word of a table stands for. -/
def rangeOfWord (word : String) : Nat × Nat :=
  let (first, rest) := word.toList.span (· != '-')
  match rest with
  | [] => (pointOfDigits first, pointOfDigits first)
  | _ :: last => (pointOfDigits first, pointOfDigits last)

/-- The words of a table, parted by blanks and line breaks. -/
def words (table : String) : List String :=
  ((table.toList.splitBy fun c d => Text.isBlank c == Text.isBlank d).filter fun word =>
    !word.all Text.isBlank).map String.ofList

/-- The set that a table lists in ascending order. -/
def ofTable (table : String) : CharSet := ⟨(words table).map rangeOfWord⟩

end CharSet
end ComponentCompiler
