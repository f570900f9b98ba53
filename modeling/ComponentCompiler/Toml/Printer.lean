import ComponentCompiler.Text.Word
import ComponentCompiler.Toml.Basic

/-!
# Writing configuration documents

A table is written as its plain values, one per line, followed by its tables, each under a header
after an empty line. A list of tables alone becomes repeated headers. A table that holds only
tables gets no header. A list of two or more values has one value per line.
-/

namespace ComponentCompiler.Toml

/-- How a text is quoted: with escapes between double quotes or as it is between single ones, and
with one quote on each side or three. -/
inductive Quoting where
  | escaped
  | plain
  | escapedBlock
  | plainBlock
  deriving DecidableEq, Repr

/-- The length of the longest run of a quote. -/
def longestRun (quote : Char) : (run : Nat) → List Char → Nat
  | run, [] => run
  | run, c :: s =>
    if c = quote then longestRun quote (run + 1) s else max run (longestRun quote 0 s)

/-- A control character other than tab and line feed needs an escape. -/
def needsEscape (c : Char) : Bool :=
  (c.toNat < 0x20 && c != '\t' && c != '\n') || c.toNat == 0x7F

/-- The first way to write a text without escapes, of those in the order above, or else with
them. -/
def quoting (s : List Char) : Quoting :=
  let controls := s.any needsEscape
  let slashes := s.contains '\\'
  let lines := s.contains '\n'
  let doubles := longestRun '"' 0 s
  let singles := longestRun '\'' 0 s
  if !controls && !slashes && !lines && doubles = 0 then .escaped
  else if !controls && !lines && singles = 0 then .plain
  else if !controls && !slashes && doubles ≤ 2 then .escapedBlock
  else if !controls && singles ≤ 2 then .plainBlock
  else if lines then .escapedBlock
  else .escaped

def upperHexDigit (n : Nat) : Char := if n < 10 then Char.ofNat (48 + n) else Char.ofNat (55 + n)

/-- A character between double quotes; a line feed stays where the text may have lines. -/
def escapeChar (block : Bool) (c : Char) : List Char :=
  match c with
  | '\x08' => ['\\', 'b']
  | '\t' => ['\\', 't']
  | '\n' => if block then ['\n'] else ['\\', 'n']
  | '\x0c' => ['\\', 'f']
  | '\r' => ['\\', 'r']
  | '\\' => ['\\', '\\']
  | c =>
    if needsEscape c then
      ['\\', 'u', '0', '0', upperHexDigit (c.toNat / 16), upperHexDigit (c.toNat % 16)]
    else
      [c]

/-- A text between double quotes, or between triple ones for a block; there, two quotes in a row
stand for themselves. -/
def escapedChars (block : Bool) : (quotes : Nat) → List Char → List Char
  | _, [] => []
  | quotes, c :: s =>
    if c = '"' then
      if quotes = (if block then 2 else 0) then '\\' :: '"' :: escapedChars block 0 s
      else '"' :: escapedChars block (quotes + 1) s
    else
      escapeChar block c ++ escapedChars block 0 s

def textChars (s : List Char) : List Char :=
  let start := if s.contains '\n' then ['\n'] else []
  match quoting s with
  | .escaped => '"' :: escapedChars false 0 s ++ ['"']
  | .plain => '\'' :: s ++ ['\'']
  | .escapedBlock => "\"\"\"".toList ++ start ++ escapedChars true 0 s ++ "\"\"\"".toList
  | .plainBlock => "'''".toList ++ start ++ s ++ "'''".toList

/-- A key without quotes where its characters allow; otherwise between single quotes if double
ones would need escapes and single ones do not. -/
def keyChars (key : String) : List Char :=
  let s := key.toList
  let controls := s.any fun c => c == '\n' || needsEscape c
  if !s.isEmpty && s.all fun c => Text.isAsciiWord c || c == '-' then s
  else if !controls && (s.contains '"' || s.contains '\\') && !s.contains '\'' then
    '\'' :: s ++ ['\'']
  else '"' :: escapedChars false 0 s ++ ['"']

def integerChars (i : Int) : List Char :=
  if i < 0 then '-' :: Nat.toDigits 10 i.natAbs else Nat.toDigits 10 i.natAbs

/-- Floating-point numbers are written in positional notation with at least one place. -/
def floatChars : TomlFloat → List Char
  | .finite x =>
    (if x.negative then ['-'] else []) ++ Decimal.positional (Decimal.shortest x) ['.', '0']
  | .infinite negative => (if negative then ['-'] else []) ++ "inf".toList
  | .undefined negative => (if negative then ['-'] else []) ++ "nan".toList

mutual

/-- A value in line. -/
def chars : Toml → List Char
  | text s => textChars s.toList
  | integer i => integerChars i
  | float x => floatChars x
  | boolean b => if b then "true".toList else "false".toList
  | date d => d.text.toList
  | array [] => ['[', ']']
  | array [item] => '[' :: chars item ++ [']']
  | array (item :: next :: rest) => '[' :: itemLines (item :: next :: rest) ++ ['\n', ']']
  | table [] => ['{', '}']
  | table (entry :: rest) => '{' :: ' ' :: entryChars (entry :: rest) ++ [' ', '}']

/-- Items on lines of their own, each followed by a comma. -/
def itemLines : List Toml → List Char
  | [] => []
  | item :: rest => "\n    ".toList ++ chars item ++ ',' :: itemLines rest

/-- Entries with commas between them. -/
def entryChars : List (String × Toml) → List Char
  | [] => []
  | [(key, value)] => keyChars key ++ " = ".toList ++ chars value
  | (key, value) :: next :: rest =>
    keyChars key ++ " = ".toList ++ chars value ++ ", ".toList ++ entryChars (next :: rest)

end

/-- A non-empty list of tables alone. -/
def isTableList : Toml → Bool
  | array items => !items.isEmpty && items.all isTable
  | _ => false

/-- Whether an entry of a table stands on a line of its own. -/
def isLine (value : Toml) : Bool := !value.isTable && !isTableList value

/-- The lines of the plain values of a table. -/
def lineChars (entries : List (String × Toml)) : List Char :=
  (entries.filter fun entry => isLine entry.2).flatMap fun (key, value) =>
    keyChars key ++ " = ".toList ++ chars value ++ ['\n']

def pathChars (path : List String) : List Char :=
  match path with
  | [] => []
  | [key] => keyChars key
  | key :: rest => keyChars key ++ '.' :: pathChars rest

/-- The header of a table; one that holds only tables has none. -/
def headerChars (path : List String) (entries : List (String × Toml)) : List Char :=
  if entries.isEmpty || entries.any fun entry => isLine entry.2 then
    '\n' :: '[' :: pathChars path ++ [']', '\n']
  else
    []

def repeatedHeaderChars (path : List String) : List Char :=
  '\n' :: '[' :: '[' :: pathChars path ++ [']', ']', '\n']

mutual

/-- What stands below the plain values of a table for one of its entries. -/
def blockChars (path : List String) : Toml → List Char
  | table entries => headerChars path entries ++ lineChars entries ++ blocksChars path entries
  | array items =>
    if !items.isEmpty && items.all isTable then repeatedChars path items else []
  | _ => []

/-- The tables below a table. -/
def blocksChars (path : List String) : List (String × Toml) → List Char
  | [] => []
  | (key, value) :: rest => blockChars (path ++ [key]) value ++ blocksChars path rest

/-- The tables of a repeated header. -/
def repeatedChars (path : List String) : List Toml → List Char
  | [] => []
  | table entries :: rest =>
    repeatedHeaderChars path ++ lineChars entries ++ blocksChars path entries ++
      repeatedChars path rest
  | _ :: rest => repeatedChars path rest

end

/-- The document of a table that has plain values. -/
def document (entries : List (String × Toml)) : String :=
  String.ofList (lineChars entries ++ blocksChars [] entries)

mutual

/-- Puts the entries of every table in the order in which they are written in line: plain values,
then lists with tables, then tables. -/
def grouped : Toml → Toml
  | table entries =>
    let entries := groupedEntries entries
    let plain := entries.filter fun entry => !entry.2.isTable && !entry.2.holdsTable
    let lists := entries.filter fun entry => entry.2.holdsTable
    let tables := entries.filter fun entry => entry.2.isTable
    table (plain ++ lists ++ tables)
  | array items => array (groupedItems items)
  | other => other

def groupedItems : List Toml → List Toml
  | [] => []
  | item :: rest => grouped item :: groupedItems rest

def groupedEntries : List (String × Toml) → List (String × Toml)
  | [] => []
  | (key, value) :: rest => (key, grouped value) :: groupedEntries rest

end

end ComponentCompiler.Toml
