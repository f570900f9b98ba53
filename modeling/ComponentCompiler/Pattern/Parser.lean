import ComponentCompiler.Keyed
import ComponentCompiler.Pattern.Property
import ComponentCompiler.Pattern.Size

/-!
# Reading search patterns

The written form of a pattern: alternatives with `|`, groups, repetitions, bracketed sets with
ranges and set operations, sets by property, escapes and flags. Looking around and back-references
are refused, and so are patterns that are nested too deep or take too much memory. Flags hold
until the end of the group they stand in.
-/

namespace ComponentCompiler.Pattern

/-- How the following part of a pattern is read. -/
structure Flags where
  caseless : Bool := false
  multiLine : Bool := false
  dotAll : Bool := false
  lazy : Bool := false
  unicode : Bool := true
  returns : Bool := false
  extended : Bool := false
  deriving DecidableEq, Repr, Inhabited

/-- What is left to read, and what has been settled on the way. -/
structure Reader where
  rest : List Char
  flags : Flags := {}
  names : List (List Char) := []
  deriving Inhabited

/-- A step of reading; it fails on a text that is no pattern. -/
abbrev Reading := StateT Reader Option

namespace Reading

def fail : Reading α := fun _ => none

def require (condition : Bool) : Reading Unit := if condition then pure () else fail

def rest : Reading (List Char) := return (← get).rest

def advance (rest : List Char) : Reading Unit := modify fun r => { r with rest }

def flags : Reading Flags := return (← get).flags

/-- The next character, which is read. -/
def next : Reading Char := do
  match ← rest with
  | c :: rest => advance rest; return c
  | [] => fail

/-- Reads a fixed text if it comes next. -/
def accept (part : String) : Reading Bool := do
  match Text.after? part.toList (← rest) with
  | some rest => advance rest; return true
  | none => return false

/-- Blanks and comments, which extended patterns ignore. -/
def dropIgnored : Nat → List Char → List Char
  | 0, s => s
  | _ + 1, [] => []
  | fuel + 1, c :: s =>
    if Text.isBlank c then dropIgnored fuel s
    else if c = '#' then dropIgnored fuel ((s.dropWhile (· != '\n')).drop 1)
    else c :: s

def ignored (extended : Bool) (s : List Char) : List Char :=
  if extended then dropIgnored (s.length + 1) s else s

def skipIgnored : Reading Unit :=
  modify fun r => { r with rest := ignored r.flags.extended r.rest }

/-- The longest start of a text whose characters satisfy `p`, when what is ignored after each of
them does not count. -/
def spanSpaced (extended : Bool) (p : Char → Bool) : Nat → List Char → List Char × List Char
  | 0, s => ([], s)
  | _ + 1, [] => ([], [])
  | fuel + 1, c :: s =>
    if p c then
      let (taken, rest) := spanSpaced extended p fuel (ignored extended s)
      (c :: taken, rest)
    else
      ([], c :: s)

/-- Reads characters that satisfy `p` as long as there are any. -/
def takeSpaced (p : Char → Bool) : Reading (List Char) := do
  let s ← rest
  let (taken, rest) := spanSpaced (← flags).extended p (s.length + 1) s
  advance rest
  return taken

/-- Reads a number of characters that satisfy `p`. -/
def takeExactly (p : Char → Bool) : Nat → Reading (List Char)
  | 0 => return []
  | count + 1 => do
    let c ← next
    require (p c)
    skipIgnored
    return c :: (← takeExactly p count)

end Reading

open Reading

/-- The characters with a meaning of their own outside sets or inside them. -/
def specialChars : List Char := "\\.+*?()|[]\x7b\x7d^$#&-~".toList

def isAsciiLetter (c : Char) : Bool := ('a' ≤ c && c ≤ 'z') || ('A' ≤ c && c ≤ 'Z')

/-- The characters that stand for themselves after a backslash. -/
def isEscapable (c : Char) : Bool :=
  specialChars.contains c ||
    (c.toNat < 128 && !isAsciiLetter c && !Text.isAsciiDigit c && c != '<' && c != '>')

def hexDigit? (c : Char) : Option Nat :=
  if Text.isAsciiDigit c then some (c.toNat - 48)
  else if 'a' ≤ c && c ≤ 'f' then some (c.toNat - 87)
  else if 'A' ≤ c && c ≤ 'F' then some (c.toNat - 55)
  else none

/-- The character with a number given in hexadecimal digits. -/
def hexChar? (digits : List Char) : Option Char := do
  let values ← digits.mapM hexDigit?
  let point := values.foldl (fun n d => 16 * n + d) 0
  if digits.isEmpty || !point.isValidChar then none else some (Char.ofNat point)

/-- A part of a pattern that an escape or a plain character stands for. -/
inductive Primitive where
  /-- A character, which may have been written as a byte. -/
  | literal (c : Char) (byte : Bool)
  | set (set : CharSet)
  | assertion (condition : Assertion)

/-- A character by its number: a fixed count of digits, or any between braces. Two digits without
braces may stand for a byte. -/
def hexadecimal (count : Nat) : Reading Primitive := do
  skipIgnored
  let isDigit (c : Char) : Bool := (hexDigit? c).isSome
  let braced ← accept "\x7b"
  let digits ←
    if braced then
      skipIgnored
      let digits ← takeSpaced isDigit
      require (← accept "\x7d")
      skipIgnored
      pure digits
    else
      takeExactly isDigit count
  match hexChar? digits with
  | some c => return .literal c (!braced && count == 2)
  | none => fail

/-- The condition after `\b` in braces, if a name stands there. -/
def namedBoundary (ascii : Bool) : Reading Assertion := do
  let isNameChar (c : Char) : Bool := isAsciiLetter c || c == '-'
  match ← rest with
  | '{' :: s =>
    match ignored (← flags).extended s with
    | [] => fail
    | c :: s =>
      if !isNameChar c then
        return .wordBoundary ascii
      else
        advance (c :: s)
        let name ← takeSpaced isNameChar
        require (← accept "\x7d")
        match String.ofList name with
        | "start" => return .wordStart ascii
        | "end" => return .wordEnd ascii
        | "start-half" => return .wordStartHalf ascii
        | "end-half" => return .wordEndHalf ascii
        | _ => fail
  | _ => return .wordBoundary ascii

/-- A set under the flags in force. -/
def foldedSet (flags : Flags) (set : CharSet) : CharSet :=
  if flags.caseless then
    if flags.unicode then Text.caseless set else Text.asciiCaseless set
  else set

/-- The set of a property, or the complement of one, after its letter. -/
def propertySet (negated : Bool) : Reading CharSet := do
  let flags ← flags
  require flags.unicode
  skipIgnored
  let asked ←
    if ← accept "\x7b" then
      skipIgnored
      let text ← takeSpaced (· != '}')
      require (← accept "\x7d")
      pure (askedSet? text)
    else
      let c ← next
      require (c != '\\')
      skipIgnored
      pure (namedSet? [c])
  match asked with
  | some set =>
    let set := foldedSet flags set
    return if negated then set.complement else set
  | none => fail

def digitSet (ascii : Bool) : CharSet :=
  if ascii then .range '0' '9' else .ofRanges ((48, 57) :: Text.digitRanges)

/-- The blanks among the ASCII characters. -/
def asciiBlanks : CharSet := .union (.range '\t' '\r') (.single ' ')

def blankSet (ascii : Bool) : CharSet := if ascii then asciiBlanks else ⟨Text.blankRanges⟩

/-- The word characters among the ASCII characters. -/
def asciiWords : CharSet := .unions [.range '0' '9', .range 'A' 'Z', .single '_', .range 'a' 'z']

def wordSet (ascii : Bool) : CharSet :=
  if ascii then asciiWords else asciiWords.union ⟨Text.wordRanges⟩

/-- The complement of a set of ASCII characters alone could hold parts of characters. -/
def complementOf (unicode : Bool) (set : CharSet) : Reading Primitive := do
  require unicode
  return .set set.complement

/-- What a backslash and the following characters stand for. -/
def escape : Reading Primitive := do
  let unicode := (← flags).unicode
  let ascii := !unicode
  let c ← next
  match c with
  | 'x' => return (← hexadecimal 2)
  | 'u' => return (← hexadecimal 4)
  | 'U' => return (← hexadecimal 8)
  | 'p' => return .set (← propertySet false)
  | 'P' => return .set (← propertySet true)
  | 'd' => return .set (digitSet ascii)
  | 's' => return .set (blankSet ascii)
  | 'w' => return .set (wordSet ascii)
  | 'D' => complementOf unicode (digitSet ascii)
  | 'S' => complementOf unicode (blankSet ascii)
  | 'W' => complementOf unicode (wordSet ascii)
  | 'a' => return .literal '\x07' false
  | 'f' => return .literal '\x0c' false
  | 't' => return .literal '\t' false
  | 'n' => return .literal '\n' false
  | 'r' => return .literal '\r' false
  | 'v' => return .literal '\x0b' false
  | 'A' => return .assertion .textStart
  | 'z' => return .assertion .textEnd
  | 'b' => return .assertion (← namedBoundary ascii)
  | 'B' => return .assertion (.noWordBoundary ascii)
  | '<' => return .assertion (.wordStart ascii)
  | '>' => return .assertion (.wordEnd ascii)
  | c => if isEscapable c then return .literal c false else fail

/-- The named sets of ASCII characters. -/
def namedSets : List (String × CharSet) :=
  let lower := CharSet.range 'a' 'z'
  let upper := CharSet.range 'A' 'Z'
  let alpha := lower.union upper
  let digit := CharSet.range '0' '9'
  let alnum := alpha.union digit
  [("alnum", alnum), ("alpha", alpha), ("ascii", .range '\x00' '\x7f'),
    ("blank", .union (.single '\t') (.single ' ')),
    ("cntrl", .union (.range '\x00' '\x1f') (.single '\x7f')), ("digit", digit),
    ("graph", .range '!' '~'), ("lower", lower), ("print", .range ' ' '~'),
    ("punct", .unions [.range '!' '/', .range ':' '@', .range '[' (Char.ofNat 96),
      .range '\x7b' '~']),
    ("space", asciiBlanks), ("upper", upper), ("word", asciiWords),
    ("xdigit", .unions [digit, .range 'a' 'f', .range 'A' 'F'])]

/-- The complement of a set if asked for. Without Unicode it could hold parts of characters. -/
def closeSet (negated : Bool) (set : CharSet) : Reading CharSet := do
  require (!negated || (← flags).unicode)
  return if negated then set.complement else set

/-- A named set between brackets with colons, and whether its complement is meant; any other text
there is no such set. -/
def bracketedName? (s : List Char) : Option ((Bool × CharSet) × List Char) :=
  match s with
  | '[' :: ':' :: s =>
    let (negated, s) := match s with
      | '^' :: s => (true, s)
      | s => (false, s)
    let (name, after) := s.span isAsciiLetter
    match after with
    | ':' :: ']' :: after =>
      (Keyed.get? (String.ofList name) namedSets).map fun set => ((negated, set), after)
    | _ => none
  | _ => none

/-- A bracketed set or a part of one, with how deep others stand inside it. -/
structure SetPart where
  set : CharSet
  nesting : Nat

/-- The union of the elements of a bracketed set. Two elements or more are nested in it. -/
def unionOf (items : List SetPart) : SetPart :=
  match items with
  | [item] => item
  | items =>
    ⟨.unions (items.map (·.set)),
      if items.isEmpty then 0 else (items.map (·.nesting)).foldl max 0 + 1⟩

/-- One element of a bracketed set. -/
def setItem : Reading Primitive := do
  match ← next with
  | '\\' => escape
  | c => return .literal c false

/-- The set of an element on its own. -/
def itemSet (flags : Flags) : Primitive → Reading CharSet
  | .literal c _ => do
    require (flags.unicode || c.toNat < 128)
    return foldedSet flags (.single c)
  | .set set => return set
  | .assertion _ => fail

/-- The character after a hyphen in a bracketed set, past what is ignored; but in a comment it is
the first character that is no blank. -/
def afterHyphen? (extended : Bool) (s : List Char) : Option Char :=
  if extended then
    match s.dropWhile Text.isBlank with
    | '#' :: s => (s.dropWhile Text.isBlank).head?
    | s => s.head?
  else
    s.head?

/-- An element of a bracketed set, or a range between two. -/
def setRange : Reading CharSet := do
  let flags ← flags
  let item ← setItem
  skipIgnored
  match ← rest with
  | [] => fail
  | '-' :: after =>
    let following := afterHyphen? flags.extended after
    if following = some ']' || following = some '-' then
      itemSet flags item
    else do
      advance after
      skipIgnored
      match item, ← setItem with
      | .literal first _, .literal last _ =>
        require (first ≤ last && (flags.unicode || last.toNat < 128))
        return foldedSet flags (.range first last)
      | _, _ => fail
  | _ => itemSet flags item

/-- The operations on sets. -/
def setOperation? : List Char → Option ((CharSet → CharSet → CharSet) × List Char)
  | '&' :: '&' :: s => some (.intersection, s)
  | '-' :: '-' :: s => some (.difference, s)
  | '~' :: '~' :: s => some (.symmetricDifference, s)
  | _ => none

/-- Hyphens at the start of a bracketed set stand for themselves. -/
def leadingHyphens : Nat → Reading (List SetPart)
  | 0 => return []
  | fuel + 1 => do
    if ← accept "-" then
      skipIgnored
      return ⟨.single '-', 0⟩ :: (← leadingHyphens fuel)
    else
      return []

/-- The start of a bracketed set: whether it is a complement, and the characters that stand for
themselves there. -/
def setStart : Reading (Bool × List SetPart) := do
  skipIgnored
  let negated ← accept "^"
  skipIgnored
  let hyphens ← leadingHyphens (← rest).length
  if hyphens.isEmpty then
    if ← accept "]" then
      skipIgnored
      return (negated, [⟨.single ']', 0⟩])
  return (negated, hyphens)

/-- An operation on a set that was read and one that is still to come. -/
abbrev Combine := SetPart → SetPart

/-- The last operand of a bracketed set joined with those before it. -/
def combined (operation : CharSet → CharSet → CharSet) (left : SetPart) : Combine := fun right =>
  ⟨operation left.set right.set, max left.nesting right.nesting + 1⟩

mutual

/-- A bracketed set after its opening bracket. -/
def bracketed : Nat → Reading SetPart
  | 0 => fail
  | fuel + 1 => do
    let (negated, items) ← setStart
    let part ← setBody fuel id items.reverse
    return ⟨← closeSet negated part.set, part.nesting + 1⟩

/-- The rest of a bracketed set. `combine` puts the operand before the last operation to what is
read now, and `items` are the elements of the operand so far, in reverse. -/
def setBody : Nat → Combine → List SetPart → Reading SetPart
  | 0, _, _ => fail
  | fuel + 1, combine, items => do
    skipIgnored
    match ← rest with
    | [] => fail
    | ']' :: s => advance s; return combine (unionOf items.reverse)
    | '[' :: s =>
      match bracketedName? ('[' :: s) with
      | some ((negated, set), s) =>
        advance s
        let set ← closeSet negated (foldedSet (← flags) set)
        setBody fuel combine (⟨set, 0⟩ :: items)
      | none =>
        advance s
        let inner ← bracketed fuel
        setBody fuel combine (inner :: items)
    | s =>
      match setOperation? s with
      | some (operation, s) =>
        advance s
        setBody fuel (combined operation (combine (unionOf items.reverse))) []
      | none =>
        let set ← setRange
        setBody fuel combine (⟨set, 0⟩ :: items)

end

/-- The flag that a letter stands for, with its new value. -/
def setFlag (c : Char) (value : Bool) (flags : Flags) : Option Flags :=
  match c with
  | 'i' => some { flags with caseless := value }
  | 'm' => some { flags with multiLine := value }
  | 's' => some { flags with dotAll := value }
  | 'U' => some { flags with lazy := value }
  | 'u' => some { flags with unicode := value }
  | 'R' => some { flags with returns := value }
  | 'x' => some { flags with extended := value }
  | _ => none

/-- Applies the flags in a list of letters; those after a hyphen are cleared. No letter and no
hyphen repeats, and a hyphen is not the last. -/
def applyFlags? : List Char → (value : Bool) → (seen : List Char) → Flags → Option Flags
  | [], value, seen, flags =>
    if !value && seen.getLast? = some '-' then none else some flags
  | c :: s, value, seen, flags =>
    if seen.contains c then none
    else if c = '-' then applyFlags? s false (seen ++ [c]) flags
    else do applyFlags? s value (seen ++ [c]) (← setFlag c value flags)

/-- The letters that a name of a group may hold. -/
def nameLetters : CharSet :=
  .unions [.single '_', CharProperty.alphabetic, CharCategory.newerAlphabetic]

/-- The other characters that may stand in the name of a group after its first. -/
def nameSigns : CharSet :=
  .unions [.single '.', .single '[', .single ']', CharCategory.having (·.isNumber),
    CharCategory.newerNumbers]

def isNameStart (c : Char) : Bool := nameLetters.holds c

def isNameChar (c : Char) : Bool := isNameStart c || nameSigns.holds c

/-- The name of a group, up to the closing angle bracket. -/
def groupName : Reading Unit := do
  let (name, after) := (← rest).span (· != '>')
  require (!name.isEmpty && !after.isEmpty)
  require ((name.head?.all isNameStart) && name.all isNameChar)
  require (!(← get).names.contains name)
  modify fun r => { r with rest := after.drop 1, names := name :: r.names }

/-- How a group starts. -/
inductive GroupStart where
  /-- Flags for the rest of the surrounding group. -/
  | flags (flags : Flags)
  /-- A group with the flags inside it, whose extent may be of interest. -/
  | group (flags : Flags) (captures : Bool)

def groupStart : Reading GroupStart := do
  skipIgnored
  let flags ← flags
  for lookAround in ["?=", "?!", "?<=", "?<!"] do
    require (Text.after? lookAround.toList (← rest)).isNone
  if (← accept "?P<") || (← accept "?<") then
    groupName
    return .group flags true
  else if ← accept "?" then
    let (letters, after) := (← rest).span fun c => c != ':' && c != ')'
    match applyFlags? letters true [] flags, after with
    | some flags, ':' :: after => advance after; return .group flags false
    | some flags, ')' :: after =>
      require (!letters.isEmpty)
      advance after
      return .flags flags
    | _, _ => fail
  else
    return .group flags true

/-- A number with blanks around it. -/
def count : Reading Nat := do
  advance ((← rest).dropWhile Text.isBlank)
  let digits ← takeSpaced Text.isAsciiDigit
  let value := digits.foldl (fun n c => 10 * n + (c.toNat - 48)) 0
  require (!digits.isEmpty && value < 2 ^ 32)
  advance ((← rest).dropWhile Text.isBlank)
  skipIgnored
  return value

/-- The bounds of a repetition after the opening brace. -/
def bounds : Reading (Nat × Option Nat) := do
  skipIgnored
  let least ← count
  if ← accept "," then
    skipIgnored
    if ← accept "\x7d" then
      return (least, none)
    else
      let most ← count
      require (← accept "\x7d")
      require (least ≤ most)
      return (least, some most)
  else
    require (← accept "\x7d")
    return (least, some least)

/-- A question mark after a repetition. -/
def skipLaziness : Reading Unit := do
  let _ ← accept "?"

/-- The pattern of a dot. -/
def dot (flags : Flags) : Reading Pattern := do
  require flags.unicode
  if flags.dotAll then
    return .oneOf .all
  else if flags.returns then
    return .oneOf (CharSet.complement (.ofRanges [(10, 10), (13, 13)]))
  else
    return .oneOf (CharSet.complement (.single '\n'))

/-- A single character, an escape or an anchor, as a pattern. -/
def plain (c : Char) : Reading Pattern := do
  let flags ← flags
  match c with
  | '.' => dot flags
  | '^' => return .assertion (if flags.multiLine then .lineStart flags.returns else .textStart)
  | '$' => return .assertion (if flags.multiLine then .lineEnd flags.returns else .textEnd)
  | '\\' =>
    match ← escape with
    | .literal c byte =>
      require (!byte || flags.unicode || c.toNat < 128)
      return .oneOf (foldedSet flags (.single c))
    | .set set => return .oneOf set
    | .assertion condition => return .assertion condition
  | c => return .oneOf (foldedSet flags (.single c))

/-- A part of a pattern, with how deep constructs that hold others stand inside it. -/
structure Part where
  pattern : Pattern
  nesting : Nat := 0
  /-- Flags take the place of a part, but cannot be repeated. -/
  repeatable : Bool := true

/-- The greatest nesting among parts. -/
def nestingOf (parts : List Part) : Nat := (parts.map (·.nesting)).foldl max 0

/-- The pattern of parts in a row, given in reverse. -/
def rowOf (parts : List Part) : Part :=
  match parts with
  | [] => { pattern := .empty }
  | [part] => part
  | parts => { pattern := .row (parts.reverse.map (·.pattern)), nesting := nestingOf parts + 1 }

/-- Repeats the last part; there has to be one. -/
def repeatLast (parts : List Part) (least : Nat) (most : Option Nat) : Reading (List Part) :=
  match parts with
  | part :: before => do
    require part.repeatable
    return { pattern := part.pattern.times least most, nesting := part.nesting + 1 } :: before
  | [] => fail

/-- The pattern of alternatives, given in reverse. -/
def choiceOf (choices : List Part) : Part :=
  match choices with
  | [choice] => choice
  | choices =>
    { pattern := .choice (choices.reverse.map (·.pattern)), nesting := nestingOf choices + 1 }

/-- The pattern of a group. -/
def groupOf (captures : Bool) (inside : Part) : Part where
  pattern := if captures then .group inside.pattern else inside.pattern
  nesting := inside.nesting + 1

/-- Reads up to the end of the surrounding group, or of the pattern. `choices` are the finished
alternatives and `parts` the parts of the current one, both in reverse. -/
def body : Nat → (choices parts : List Part) → Reading Part
  | 0, _, _ => fail
  | fuel + 1, choices, parts => do
    skipIgnored
    match ← rest with
    | [] => return choiceOf (rowOf parts :: choices)
    | ')' :: _ => return choiceOf (rowOf parts :: choices)
    | '|' :: s => advance s; body fuel (rowOf parts :: choices) []
    | '(' :: s =>
      advance s
      let outer ← flags
      match ← groupStart with
      | .flags inner =>
        modify fun r => { r with flags := inner }
        body fuel choices ({ pattern := .empty, repeatable := false } :: parts)
      | .group inner captures =>
        modify fun r => { r with flags := inner }
        let inside ← body fuel [] []
        require (← accept ")")
        modify fun r => { r with flags := outer }
        body fuel choices (groupOf captures inside :: parts)
    | '[' :: s =>
      advance s
      let part ← bracketed (s.length + 1)
      body fuel choices ({ pattern := .oneOf part.set, nesting := part.nesting } :: parts)
    | '?' :: s =>
      advance s; skipLaziness
      body fuel choices (← repeatLast parts 0 (some 1))
    | '*' :: s =>
      advance s; skipLaziness
      body fuel choices (← repeatLast parts 0 none)
    | '+' :: s =>
      advance s; skipLaziness
      body fuel choices (← repeatLast parts 1 none)
    | '{' :: s =>
      advance s
      let (least, most) ← bounds
      skipIgnored
      skipLaziness
      body fuel choices (← repeatLast parts least most)
    | c :: s =>
      advance s
      let part ← plain c
      body fuel choices ({ pattern := part } :: parts)

/-- The deepest nesting that is read. -/
def nestingLimit : Nat := 250

/-- The pattern that a text describes. -/
def parse? (text : String) : Option Pattern := do
  let s := text.toList
  let (part, reader) ← (body (s.length + 1) [] []).run { rest := s }
  if reader.rest.isEmpty && part.nesting ≤ nestingLimit && part.pattern.fits then
    some part.pattern
  else
    none

end ComponentCompiler.Pattern
