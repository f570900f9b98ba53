import ComponentCompiler.Json.Basic
import ComponentCompiler.Text.Offset

/-!
# Reading JSON

A document is exactly one value between blanks. Integers that fit into 64 bits stay integers;
other numbers become the nearest floating-point number, and one beyond the greatest is refused.
Control characters inside strings, lone surrogates and more than 127 levels of nesting are
refused too. What is of no interest is passed over, and then only its form counts.
-/

namespace ComponentCompiler.Json

def isSpace (c : Char) : Bool := c == ' ' || c == '\n' || c == '\t' || c == '\r'

def skipSpace (s : List Char) : List Char := s.dropWhile isSpace

def isDigit (c : Char) : Bool := '0' ≤ c && c ≤ '9'

def digitValue (c : Char) : Nat := c.toNat - 48

/-- The number that decimal digits stand for. -/
def naturalOf (digits : List Char) : Nat :=
  digits.foldl (fun n c => 10 * n + digitValue c) 0

def hexValue? (c : Char) : Option Nat :=
  if isDigit c then some (digitValue c)
  else if 'a' ≤ c && c ≤ 'f' then some (c.toNat - 87)
  else if 'A' ≤ c && c ≤ 'F' then some (c.toNat - 55)
  else none

/-- The 16-bit unit that four hexadecimal digits stand for. -/
def unit? : List Char → Option (Nat × List Char)
  | a :: b :: c :: d :: rest => do
    let a ← hexValue? a
    let b ← hexValue? b
    let c ← hexValue? c
    let d ← hexValue? d
    return (((a * 16 + b) * 16 + c) * 16 + d, rest)
  | _ => none

/-- The character after `\u`; a pair of surrogates is one character. -/
def escapedUnit? (s : List Char) : Option (Char × List Char) := do
  let (high, rest) ← unit? s
  if 0xD800 ≤ high && high < 0xDC00 then
    match rest with
    | '\\' :: 'u' :: rest =>
      let (low, rest) ← unit? rest
      if 0xDC00 ≤ low && low < 0xE000 then
        return (Char.ofNat (0x10000 + (high - 0xD800) * 0x400 + (low - 0xDC00)), rest)
      else
        none
    | _ => none
  else if 0xDC00 ≤ high && high < 0xE000 then
    none
  else
    return (Char.ofNat high, rest)

/-- The character that an escape stands for, from what follows the backslash. -/
def escaped? : List Char → Option (Char × List Char)
  | '"' :: rest => some ('"', rest)
  | '\\' :: rest => some ('\\', rest)
  | '/' :: rest => some ('/', rest)
  | 'b' :: rest => some ('\x08', rest)
  | 'f' :: rest => some ('\x0c', rest)
  | 'n' :: rest => some ('\n', rest)
  | 'r' :: rest => some ('\r', rest)
  | 't' :: rest => some ('\t', rest)
  | 'u' :: rest => escapedUnit? rest
  | _ => none

/-- The characters of a string after its opening quote, and what follows the closing one. -/
def stringBody? : Nat → List Char → Option (List Char × List Char)
  | 0, _ => none
  | _ + 1, [] => none
  | _ + 1, '"' :: rest => some ([], rest)
  | fuel + 1, '\\' :: rest => do
    let (c, rest) ← escaped? rest
    let (tail, rest) ← stringBody? fuel rest
    return (c :: tail, rest)
  | fuel + 1, c :: rest =>
    if c.toNat < 0x20 then
      none
    else do
      let (tail, rest) ← stringBody? fuel rest
      return (c :: tail, rest)

/-- A quoted string. -/
def string? : List Char → Option (String × List Char)
  | '"' :: rest => do
    let (body, rest) ← stringBody? (rest.length + 1) rest
    return (String.ofList body, rest)
  | _ => none

/-- The rest after an escape, which need not stand for a character. -/
def afterEscape? : List Char → Option (List Char)
  | 'u' :: rest => (unit? rest).map (·.2)
  | s => (escaped? s).map (·.2)

/-- The rest after a string, from what follows its opening quote. -/
def afterString? : Nat → List Char → Option (List Char)
  | 0, _ => none
  | _ + 1, [] => none
  | _ + 1, '"' :: rest => some rest
  | fuel + 1, '\\' :: rest => (afterEscape? rest).bind (afterString? fuel)
  | fuel + 1, c :: rest => if c.toNat < 0x20 then none else afterString? fuel rest

/-- A quoted string; one that is of no interest is passed over. -/
def stringFor? (shape : Shape) (s : List Char) : Option (String × List Char) :=
  if shape.isNothing then
    match s with
    | '"' :: rest => (afterString? (rest.length + 1) rest).map ("", ·)
    | _ => none
  else
    string? s

/-- The digits at the start of a text, at least one. -/
def digits? (s : List Char) : Option (List Char × List Char) :=
  match s.span isDigit with
  | ([], _) => none
  | found => some found

/-- The whole part of a number: a zero, or digits that do not start with one. -/
def wholePart? (s : List Char) : Option (List Char × List Char) :=
  match s with
  | '0' :: rest => some (['0'], rest)
  | _ => digits? s

/-- The digits after a point, if there is a point. -/
def fraction? : List Char → Option (List Char × List Char)
  | '.' :: rest => digits? rest
  | s => some ([], s)

/-- The power of ten after an exponent mark, if there is one. -/
def exponent? : List Char → Option (Option Int × List Char)
  | c :: rest =>
    if c == 'e' || c == 'E' then
      match rest with
      | '-' :: rest => do
        let (found, rest) ← digits? rest
        return (some (-(naturalOf found : Int)), rest)
      | '+' :: rest => do
        let (found, rest) ← digits? rest
        return (some (naturalOf found : Int), rest)
      | _ => do
        let (found, rest) ← digits? rest
        return (some (naturalOf found : Int), rest)
    else
      some (none, c :: rest)
  | [] => some (none, [])

/-- A number as it is written. -/
structure Numeral where
  negative : Bool
  whole : List Char
  /-- The digits after the point. -/
  fraction : List Char
  /-- The power of ten, if there is an exponent mark. -/
  power : Option Int

/-- The value of a number. An integer has no point and no exponent, fits into 64 bits and is not a
negative zero. -/
def Numeral.value? (x : Numeral) : Option Json :=
  let n := naturalOf x.whole
  let isInteger := x.fraction.isEmpty && x.power.isNone
  if isInteger && !x.negative && n < 2 ^ 64 then
    some (integer n)
  else if isInteger && x.negative && 0 < n && n ≤ 2 ^ 63 then
    some (integer (-n))
  else
    (Binary64.ofDecimal? x.negative (naturalOf (x.whole ++ x.fraction))
      (x.power.getD 0 - x.fraction.length)).map float

/-- A number after its sign. -/
def unsigned? (negative : Bool) (s : List Char) : Option (Numeral × List Char) := do
  let (whole, s) ← wholePart? s
  let (fraction, s) ← fraction? s
  let (power, s) ← exponent? s
  return (⟨negative, whole, fraction, power⟩, s)

def numeral? : List Char → Option (Numeral × List Char)
  | '-' :: rest => unsigned? true rest
  | s => unsigned? false s

/-- A number; one that is of no interest may be too large. -/
def numberFor? (shape : Shape) (s : List Char) : Option (Json × List Char) := do
  let (x, rest) ← numeral? s
  if shape.isNothing then return (null, rest) else return (← x.value?, rest)

/-- A value as far as it is of interest. -/
def keptFor (shape : Shape) (value : Json) : Json := if shape.isNothing then null else value

/-- Reads a fixed word. -/
def word? (word : List Char) (value : Json) (s : List Char) : Option (Json × List Char) :=
  if word.isPrefixOf s then some (value, s.drop word.length) else none

mutual

/-- One value at the start of a text. The fuel bounds the number of characters read. A member that
is of no interest has the value null. -/
def value? : Nat → Shape → List Char → Option (Json × List Char)
  | 0, _, _ => none
  | fuel + 1, shape, s =>
    match skipSpace s with
    | '{' :: rest =>
      match skipSpace rest with
      | '}' :: rest => some (keptFor shape (object []), rest)
      | rest => do
        let (members, rest) ← members? fuel shape rest
        return (keptFor shape (object members), rest)
    | '[' :: rest =>
      match skipSpace rest with
      | ']' :: rest => some (keptFor shape (array []), rest)
      | rest => do
        let (items, rest) ← items? fuel shape 0 rest
        return (keptFor shape (array items), rest)
    | '"' :: rest => do
      let (s, rest) ← stringFor? shape ('"' :: rest)
      return (keptFor shape (text s), rest)
    | 't' :: rest => word? "true".toList (keptFor shape (bool true)) ('t' :: rest)
    | 'f' :: rest => word? "false".toList (keptFor shape (bool false)) ('f' :: rest)
    | 'n' :: rest => word? "null".toList null ('n' :: rest)
    | rest => numberFor? shape rest

/-- The items of an array from an index on, up to its closing bracket. -/
def items? : Nat → Shape → (index : Nat) → List Char → Option (List Json × List Char)
  | 0, _, _, _ => none
  | fuel + 1, shape, index, s => do
    let (item, rest) ← value? fuel (shape.item index) s
    match skipSpace rest with
    | ',' :: rest =>
      let (more, rest) ← items? fuel shape (index + 1) rest
      return (item :: more, rest)
    | ']' :: rest => return ([item], rest)
    | _ => none

/-- The members of an object up to its closing brace. -/
def members? : Nat → Shape → List Char → Option (List (String × Json) × List Char)
  | 0, _, _ => none
  | fuel + 1, shape, s => do
    let (key, rest) ← stringFor? shape (skipSpace s)
    match skipSpace rest with
    | ':' :: rest =>
      let (value, rest) ← value? fuel (shape.member key) rest
      match skipSpace rest with
      | ',' :: rest =>
        let (more, rest) ← members? fuel shape rest
        return ((key, value) :: more, rest)
      | '}' :: rest => return ([(key, value)], rest)
      | _ => none
    | _ => none

end

/-- The deepest nesting that is read. -/
def depthLimit : Nat := 127

/-- The value that some characters are a document of. -/
def ofChars? (shape : Shape) (s : List Char) : Option Json := do
  let (value, rest) ← value? (s.length + 1) shape s
  if (skipSpace rest).isEmpty && value.depth ≤ depthLimit then return value else none

/-- The value that a document holds. -/
def parse? (shape : Shape) (document : String) : Option Json := ofChars? shape document.toList

/-- The value that some bytes are a document of. Bytes that are no characters may stand only where
they are of no interest: the value is the same whatever characters take their place. -/
def ofBytes? (shape : Shape) (bytes : List UInt8) : Option Json :=
  match String.fromUTF8? ⟨bytes.toArray⟩ with
  | some document => parse? shape document
  | none =>
    let value := ofChars? shape (Text.decodedWith '\ufffd' bytes)
    if ofChars? shape (Text.decodedWith '\ufffe' bytes) == value then value else none

/-- What a document says of a type. -/
def read? {α : Type} [Readable α] (document : String) : Option α :=
  (parse? (Readable.shape α) document).bind Readable.ofJson?

end ComponentCompiler.Json
