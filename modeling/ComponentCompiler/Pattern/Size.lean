import ComponentCompiler.Pattern.Basic

/-!
# The size of a pattern

A pattern is searched for with two automata that read the bytes of a text, one forwards and one
backwards. Their states take memory, and a pattern whose automata would take too much is refused
before anything is searched. Repetitions with counts write their body down once for each time, so
the size of a pattern is far from the length of its written form.
-/

namespace ComponentCompiler

-- Sums of naturals start from the core library's zero, whatever else is imported.
attribute [local instance (20000)] Zero.ofOfNat0

/-- The first and the last value that a byte may take. -/
abbrev ByteRange := Nat × Nat

namespace CharSet

/-- The numbers from `first` to `last`, written with `digits` further digits to the base 64, as
sequences of ranges of digits. -/
def digitRanges : (digits first last : Nat) → List (List ByteRange)
  | 0, first, last => [[(first, last)]]
  | digits + 1, first, last =>
    let unit := 64 ^ (digits + 1)
    let (a, low) := (first / unit, first % unit)
    let (b, high) := (last / unit, last % unit)
    if a = b then
      (digitRanges digits low high).map ((a, a) :: ·)
    else
      let head := if low = 0 then [] else (digitRanges digits low (unit - 1)).map ((a, a) :: ·)
      let tail := if high = unit - 1 then [] else (digitRanges digits 0 high).map ((b, b) :: ·)
      let a := if low = 0 then a else a + 1
      let b := if high = unit - 1 then b else b - 1
      let middle := (a, b) :: List.replicate (digits + 1) (0, 63)
      head ++ (if a ≤ b then [middle] else []) ++ tail

/-- The code points written with the same number of bytes: the first, the last, how many bytes
follow the first byte, and what is added to the digits in the first byte. -/
def encodedBlocks : List (Nat × Nat × Nat × Nat) :=
  [(0, 0x7F, 0, 0), (0x80, 0x7FF, 1, 0xC0), (0x800, 0xD7FF, 2, 0xE0), (0xE000, 0xFFFF, 2, 0xE0),
    (0x10000, 0x10FFFF, 3, 0xF0)]

/-- The encodings of the characters of a set, as sequences of ranges of bytes. Digits stand for
the bytes that follow the first. -/
def encodings (set : CharSet) : List (List ByteRange) :=
  set.ranges.flatMap fun (first, last) =>
    encodedBlocks.flatMap fun (low, high, digits, lead) =>
      if max first low ≤ min last high then
        (digitRanges digits (max first low) (min last high)).map fun
          | (a, b) :: rest => (a + lead, b + lead) :: rest
          | [] => []
      else
        []

end CharSet

namespace Pattern

/-- The memory of a state. -/
def stateSize : Nat := 32

/-- The memory of one of several ranges of bytes on which a state goes on. -/
def rangeSize : Nat := 8

/-- The memory of one of several states with which a state goes on. -/
def branchSize : Nat := 4

/-- A state that reads one byte: the ranges on which it goes on, each with the number of the next
state, if one more byte is to be read. -/
abbrev ByteState := List (ByteRange × Option Nat)

/-- The number of a state among those found so far, which it joins unless it is one of them. -/
def numberOf (state : ByteState) (found : List ByteState) : Nat × List ByteState :=
  match found.idxOf? state with
  | some number => (number, found)
  | none => (found.length, found ++ [state])

/-- Adds the states that read sequences of at most `length` ranges of bytes. Sequences with the
same start share the states for it, and equal states are one. -/
def addStates : (length : Nat) → List (List ByteRange) → List ByteState → Nat × List ByteState
  | 0, _, found => (0, found)
  | length + 1, sequences, found =>
    let starts := (sequences.filterMap (·.head?)).eraseReps
    let (state, found) := starts.foldl (fun (state, found) start =>
      let rests := sequences.filterMap fun
        | first :: second :: rest => if first = start then some (second :: rest) else none
        | _ => none
      if rests.isEmpty then (state ++ [(start, none)], found)
      else
        let (number, found) := addStates length rests found
        (state ++ [(start, some number)], found)) (([] : ByteState), found)
    numberOf state found

/-- How many steps read the sequences when shared starts are shared steps. -/
def stepCount : (length : Nat) → List (List ByteRange) → Nat
  | 0, _ => 0
  | length + 1, sequences =>
    let starts := (sequences.filterMap (·.head?)).eraseReps
    (starts.map fun start =>
      1 + stepCount length (sequences.filterMap fun
        | first :: rest => if first = start then some rest else none
        | [] => none)).sum

/-- The memory of the states that read one character of a set. -/
def setSize (backwards : Bool) (set : CharSet) : Nat :=
  match set.only? with
  | some c => stateSize * c.utf8Size
  | none =>
    if set.isAscii then
      2 * stateSize + rangeSize * set.ranges.length
    else
      let encodings := set.encodings
      if backwards then
        2 * stateSize + branchSize * encodings.length + stateSize * stepCount 4 encodings
      else
        let states := (addStates 4 encodings []).2
        stateSize + (states.map fun state => stateSize + rangeSize * state.length).sum

/-- The bytes of a pattern that holds of a single text. -/
def word? : Pattern → Option (List Nat)
  | oneOf set => letter? set
  | sequence parts => do
    let letters ← parts.mapM fun
      | oneOf set => letter? set
      | _ => none
    return letters.flatten
  | _ => none
where
  letter? (set : CharSet) : Option (List Nat) :=
    set.only?.map fun c => c.toString.toUTF8.toList.map (·.toNat)

/-- The memory of the states that read one of several words of at most `length` bytes. -/
def wordsSize : (length : Nat) → List (List Nat) → Nat
  | 0, _ => 0
  | length + 1, words =>
    let starts := (words.filterMap (·.head?)).eraseDups
    if starts.isEmpty then 0
    else
      let ways := if starts.length = 1 then 0 else rangeSize * starts.length
      let rests := starts.map fun start =>
        wordsSize length (words.filterMap fun
          | first :: rest => if first = start then some rest else none
          | [] => none)
      2 * stateSize + branchSize + ways + rests.sum

mutual

/-- Whether a pattern holds of no empty text. -/
def takesRoom : Pattern → Bool
  | oneOf _ => true
  | group body => body.takesRoom
  | sequence parts => anyTakesRoom parts
  | alternatives choices => allTakeRoom choices
  | repeated body least _ => 0 < least && body.takesRoom
  | _ => false

def anyTakesRoom : List Pattern → Bool
  | [] => false
  | part :: rest => part.takesRoom || anyTakesRoom rest

def allTakeRoom : List Pattern → Bool
  | [] => true
  | part :: rest => part.takesRoom && allTakeRoom rest

end

/-- The memory of a repetition of a body. -/
def repeatedSize (body : Nat) (takesRoom : Bool) (least : Nat) : Option Nat → Nat
  | none =>
    let loop := stateSize + 2 * branchSize
    if least = 0 then
      if takesRoom then loop + body else 2 * loop + stateSize + body
    else
      least * body + loop
  | some most =>
    let optional := stateSize + 2 * branchSize + body
    if least = 0 && most = 1 then stateSize + optional
    else if least = most then least * body
    else
      (if least = 0 then stateSize else least * body) + stateSize + (most - least) * optional

mutual

/-- The memory of the states that read a pattern. -/
def size (backwards : Bool) : Pattern → Nat
  | empty => stateSize
  | oneOf set => setSize backwards set
  | assertion _ => stateSize
  | group body => (if backwards then 0 else 2 * stateSize) + size backwards body
  | sequence parts => sizes backwards parts
  | alternatives choices =>
    match choices.mapM word? with
    | some words => stateSize + wordsSize ((words.map (·.length)).foldl max 0) words
    | none => 2 * stateSize + branchSize * choices.length + sizes backwards choices
  | repeated body least most => repeatedSize (size backwards body) body.takesRoom least most

def sizes (backwards : Bool) : List Pattern → Nat
  | [] => 0
  | part :: rest => size backwards part + sizes backwards rest

end

/-- The memory of the states before and after a pattern: those that look for its start, that
mark its ends, and that accept. -/
def frameSize : Nat := 208

/-- The memory that an automaton may take. -/
def sizeLimit : Nat := 10 * 2 ^ 20

/-- Whether the automata of a pattern take no more memory than they may. -/
def fits (pattern : Pattern) : Bool :=
  [false, true].all fun backwards => frameSize + pattern.size backwards ≤ sizeLimit

end Pattern
end ComponentCompiler
