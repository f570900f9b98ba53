import ComponentCompiler.Json.Basic
import ComponentCompiler.Decimal.Shortest

/-!
# Writing JSON

The compact form has no blanks. The indented form puts every element of a non-empty array or
object on a line of its own, two blanks deeper. Strings escape the quote, the backslash and the
control characters below U+0020. A floating-point number always shows that it is one: it has a
point or an exponent.
-/

namespace ComponentCompiler.Json

/-- The escapes with a letter of their own. -/
def shortEscapes : List (Char × Char) :=
  [('"', '"'), ('\\', '\\'), ('\x08', 'b'), ('\x0c', 'f'), ('\n', 'n'), ('\r', 'r'), ('\t', 't')]

def hexDigit (n : Nat) : Char := if n < 10 then Char.ofNat (48 + n) else Char.ofNat (87 + n)

/-- A character inside a quoted string. -/
def escapeChar (c : Char) : List Char :=
  match shortEscapes.find? fun entry => entry.1 == c with
  | some (_, letter) => ['\\', letter]
  | none =>
    if c.toNat < 0x20 then
      ['\\', 'u', '0', '0', hexDigit (c.toNat / 16), hexDigit (c.toNat % 16)]
    else
      [c]

def quoted (s : String) : List Char := '"' :: s.toList.flatMap escapeChar ++ ['"']

def integerChars (i : Int) : List Char :=
  if i < 0 then '-' :: Nat.toDigits 10 i.natAbs else Nat.toDigits 10 i.natAbs

/-- The shortest text that reads back as the number, with a point or an exponent. -/
def floatChars (x : Binary64) : List Char :=
  let d := Decimal.shortest x
  let magnitude := if x.mantissa = 0 || Decimal.isPositional d then
      Decimal.positional d ['.', '0'] else Decimal.scientific d
  if x.negative then '-' :: magnitude else magnitude

def boolChars (b : Bool) : List Char := if b then "true".toList else "false".toList

mutual

/-- The compact form. -/
def chars : Json → List Char
  | null => "null".toList
  | bool b => boolChars b
  | integer i => integerChars i
  | float x => floatChars x
  | text s => quoted s
  | array items => '[' :: itemChars items ++ [']']
  | object members => '{' :: memberChars members ++ ['}']

def itemChars : List Json → List Char
  | [] => []
  | [item] => chars item
  | item :: next :: rest => chars item ++ ',' :: itemChars (next :: rest)

def memberChars : List (String × Json) → List Char
  | [] => []
  | [(key, value)] => quoted key ++ ':' :: chars value
  | (key, value) :: next :: rest =>
    quoted key ++ ':' :: chars value ++ ',' :: memberChars (next :: rest)

end

/-- A new line at the given depth. -/
def indent (depth : Nat) : List Char := '\n' :: List.replicate (2 * depth) ' '

mutual

/-- The indented form, inside `depth` arrays and objects. -/
def prettyChars (depth : Nat) : Json → List Char
  | array [] => ['[', ']']
  | object [] => ['{', '}']
  | array (item :: rest) =>
    '[' :: prettyItems (depth + 1) (item :: rest) ++ indent depth ++ [']']
  | object (member :: rest) =>
    '{' :: prettyMembers (depth + 1) (member :: rest) ++ indent depth ++ ['}']
  | null => "null".toList
  | bool b => boolChars b
  | integer i => integerChars i
  | float x => floatChars x
  | text s => quoted s

def prettyItems (depth : Nat) : List Json → List Char
  | [] => []
  | [item] => indent depth ++ prettyChars depth item
  | item :: next :: rest =>
    indent depth ++ prettyChars depth item ++ ',' :: prettyItems depth (next :: rest)

def prettyMembers (depth : Nat) : List (String × Json) → List Char
  | [] => []
  | [(key, value)] => indent depth ++ quoted key ++ ':' :: ' ' :: prettyChars depth value
  | (key, value) :: next :: rest =>
    indent depth ++ quoted key ++ ':' :: ' ' :: prettyChars depth value ++
      ',' :: prettyMembers depth (next :: rest)

end

/-- The text of a value without blanks. -/
def compact (j : Json) : String := String.ofList j.chars

/-- The text of a value, one element per line. -/
def pretty (j : Json) : String := String.ofList (j.prettyChars 0)

end ComponentCompiler.Json
