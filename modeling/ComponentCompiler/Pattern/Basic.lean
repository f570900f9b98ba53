import ComponentCompiler.Text.CharSet
import ComponentCompiler.Text.Word

/-!
# Search patterns

A pattern describes the texts between two positions of a message. It is searched for anywhere in
a message, and only whether it occurs is of interest: how greedy a repetition is and what a group
captures do not count. Matching maps a set of positions at which a pattern may start to the set of
positions at which it may end.
-/

namespace ComponentCompiler

/-- A condition on a position between two characters. -/
inductive Assertion where
  | textStart
  | textEnd
  /-- The start of a line; with `returns` a carriage return ends a line too. -/
  | lineStart (returns : Bool)
  | lineEnd (returns : Bool)
  | wordBoundary (ascii : Bool)
  | noWordBoundary (ascii : Bool)
  | wordStart (ascii : Bool)
  | wordEnd (ascii : Bool)
  | wordStartHalf (ascii : Bool)
  | wordEndHalf (ascii : Bool)
  deriving DecidableEq, Repr

namespace Assertion

/-- Whether the condition holds between the neighbours of a position. -/
def holds : Assertion → (before after : Option Char) → Bool
  | textStart, before, _ => before.isNone
  | textEnd, _, after => after.isNone
  | lineStart false, before, _ => before.isNone || before == some '\n'
  | lineStart true, before, after =>
    before.isNone || before == some '\n' || (before == some '\r' && after != some '\n')
  | lineEnd false, _, after => after.isNone || after == some '\n'
  | lineEnd true, before, after =>
    after.isNone || after == some '\r' || (after == some '\n' && before != some '\r')
  | wordBoundary ascii, before, after => isWord ascii before != isWord ascii after
  | noWordBoundary ascii, before, after => isWord ascii before == isWord ascii after
  | wordStart ascii, before, after => !isWord ascii before && isWord ascii after
  | wordEnd ascii, before, after => isWord ascii before && !isWord ascii after
  | wordStartHalf ascii, before, _ => !isWord ascii before
  | wordEndHalf ascii, _, after => !isWord ascii after
where
  /-- The ends of a text count as no part of a word. -/
  isWord (ascii : Bool) : Option Char → Bool
    | some c => if ascii then Text.isAsciiWord c else Text.isWord c
    | none => false

end Assertion

inductive Pattern where
  | empty
  | oneOf (set : CharSet)
  | assertion (condition : Assertion)
  | group (body : Pattern)
  | sequence (parts : List Pattern)
  | alternatives (choices : List Pattern)
  | repeated (body : Pattern) (least : Nat) (most : Option Nat)
  deriving Inhabited, Repr

namespace Pattern

/-- Parts in a row. A row inside becomes part of the outer one, and empty parts are left out. -/
def row (parts : List Pattern) : Pattern :=
  match parts.flatMap fun
    | empty => []
    | sequence inner => inner
    | part => [part] with
  | [] => empty
  | [part] => part
  | parts => sequence parts

/-- One of several patterns. Choices inside become choices of the outer one, and choices between
single characters become one set. -/
def choice (choices : List Pattern) : Pattern :=
  let choices := choices.flatMap fun
    | alternatives inner => inner
    | choice => [choice]
  match choices with
  | [choice] => choice
  | choices =>
    match choices.mapM fun
      | oneOf set => some set
      | _ => none with
    | some sets => oneOf (.unions sets)
    | none => alternatives choices

mutual

/-- Whether a pattern holds of no text but the empty one. -/
def isEmptyOnly : Pattern → Bool
  | empty => true
  | oneOf _ => false
  | assertion _ => true
  | group body => body.isEmptyOnly
  | sequence parts => areEmptyOnly parts
  | alternatives choices => areEmptyOnly choices
  | repeated body _ _ => body.isEmptyOnly

def areEmptyOnly : List Pattern → Bool
  | [] => true
  | part :: rest => part.isEmptyOnly && areEmptyOnly rest

end

/-- A pattern a number of times. One that takes no room holds as often as it is asked for when it
holds once. -/
def times (body : Pattern) (least : Nat) (most : Option Nat) : Pattern :=
  let (least, most) :=
    if body.isEmptyOnly then (min least 1, some (min (most.getD 1) 1)) else (least, most)
  if most = some 0 then empty
  else if least = 1 && most = some 1 then body
  else repeated body least most

/-- The positions in one of two ascending lists. -/
def merged (a b : List Nat) : List Nat := (a.merge b).eraseReps

/-- Applies a step a number of times. -/
def iterate (step : List Nat → List Nat) : Nat → List Nat → List Nat
  | 0, positions => positions
  | times + 1, positions =>
    let next := step positions
    if next = positions then positions else iterate step times next

/-- The positions found before, and those after at most a number of steps from the latest. -/
def spread (step : List Nat → List Nat) : Nat → (latest found : List Nat) → List Nat
  | 0, _, found => found
  | times + 1, latest, found =>
    let fresh := (step latest).filter fun i => !found.contains i
    if fresh.isEmpty then found else spread step times fresh (merged fresh found)

mutual

/-- The positions at which a pattern may end when it starts at one of the given positions. -/
def reach (text : Array Char) : Pattern → List Nat → List Nat
  | empty, positions => positions
  | oneOf s, positions =>
    positions.filterMap fun i =>
      match text[i]? with
      | some c => if s.holds c then some (i + 1) else none
      | none => none
  | assertion condition, positions =>
    positions.filter fun i =>
      condition.holds (if i = 0 then none else text[i - 1]?) text[i]?
  | group body, positions => reach text body positions
  | sequence parts, positions => reachAll text parts positions
  | alternatives choices, positions => reachAny text choices positions
  | repeated body least most, positions =>
    let once := iterate (fun s => reach text body s) least positions
    let rounds := match most with
      | some most => min (most - least) (text.size + 1)
      | none => text.size + 1
    spread (fun s => reach text body s) rounds once once

/-- One pattern after the other. -/
def reachAll (text : Array Char) : List Pattern → List Nat → List Nat
  | [], positions => positions
  | part :: rest, positions => reachAll text rest (reach text part positions)

/-- One of the patterns. -/
def reachAny (text : Array Char) : List Pattern → List Nat → List Nat
  | [], _ => []
  | choice :: rest, positions =>
    merged (reach text choice positions) (reachAny text rest positions)

end

/-- Whether a pattern occurs anywhere in a text. -/
def occursIn (pattern : Pattern) (text : String) : Bool :=
  let chars := text.toList.toArray
  !(pattern.reach chars (List.range (chars.size + 1))).isEmpty

end Pattern
end ComponentCompiler
