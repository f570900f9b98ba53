import ComponentCompiler.Toml.Node
import ComponentCompiler.Toml.Scalar

/-!
# Reading configuration documents

A document is a list of lines: blank ones, comments, table headers and keys with values. Only
lists and texts in triple quotes go over several lines. The result is the table of all values, in
the order of the document.
-/

namespace ComponentCompiler.Toml

/-- A reader takes a value from the start of a text and leaves the rest. -/
abbrev Reader (α : Type) := List Char → Option (α × List Char)

def skipBlanks (s : List Char) : List Char := s.dropWhile fun c => c == ' ' || c == '\t'

/-- The rest after the end of a line. -/
def afterNewline? : List Char → Option (List Char)
  | '\n' :: s => some s
  | '\r' :: '\n' :: s => some s
  | _ => none

/-- A character that stands for itself in a comment or a text. -/
def isPlain (c : Char) : Bool := c == '\t' || (0x20 ≤ c.toNat && c.toNat != 0x7F)

def skipComment : List Char → List Char
  | '#' :: s => s.dropWhile isPlain
  | s => s

/-- The end of a line after its last value, with an optional comment. -/
def lineEnd? (s : List Char) : Option (List Char) :=
  match skipComment (skipBlanks s) with
  | [] => some []
  | s => afterNewline? s

/-- Blanks, comments and line ends. -/
def skipLines : Nat → List Char → List Char
  | 0, s => s
  | fuel + 1, s =>
    let rest := skipComment (skipBlanks s)
    match afterNewline? rest with
    | some rest => skipLines fuel rest
    | none => if (skipBlanks s).head? = some '#' then s else rest

/-- The character with a number in hexadecimal digits. -/
def codePoint? (count : Nat) (s : List Char) : Option (Char × List Char) :=
  let digits := s.take count
  let point := numberOf 16 digits
  if digits.length = count && digits.all (isDigit 16) && decide point.isValidChar then
    some (Char.ofNat point, s.drop count)
  else
    none

/-- What an escape stands for, from what follows the backslash. -/
def escape? : List Char → Option (Char × List Char)
  | 'b' :: s => some ('\x08', s)
  | 't' :: s => some ('\t', s)
  | 'n' :: s => some ('\n', s)
  | 'f' :: s => some ('\x0c', s)
  | 'r' :: s => some ('\r', s)
  | '"' :: s => some ('"', s)
  | '\\' :: s => some ('\\', s)
  | 'u' :: s => codePoint? 4 s
  | 'U' :: s => codePoint? 8 s
  | _ => none

/-- A text on one line up to its closing quote. Escapes are read between double quotes. -/
def lineText? (quote : Char) : Nat → Reader (List Char)
  | 0, _ => none
  | _ + 1, [] => none
  | fuel + 1, c :: s =>
    if c = quote then
      some ([], s)
    else if c = '\\' && quote = '"' then do
      let (d, s) ← escape? s
      let (tail, s) ← lineText? quote fuel s
      return (d :: tail, s)
    else if isPlain c then do
      let (tail, s) ← lineText? quote fuel s
      return (c :: tail, s)
    else
      none

/-- The rest after a backslash that ends a line: all blanks and line ends are dropped. -/
def afterContinuation? (s : List Char) : Option (List Char) :=
  (afterNewline? (skipBlanks s)).map dropSpace
where
  dropSpace : List Char → List Char
    | ' ' :: s => dropSpace s
    | '\t' :: s => dropSpace s
    | '\n' :: s => dropSpace s
    | '\r' :: '\n' :: s => dropSpace s
    | s => s

/-- A text up to three closing quotes; one or two quotes before them belong to it. -/
def blockText? (quote : Char) : Nat → Reader (List Char)
  | 0, _ => none
  | _ + 1, [] => none
  | fuel + 1, c :: s =>
    if c = quote then
      let quotes := (c :: s).takeWhile (· == quote)
      let rest := (c :: s).dropWhile (· == quote)
      if 3 ≤ quotes.length then
        if quotes.length ≤ 5 then some (List.replicate (quotes.length - 3) quote, rest) else none
      else do
        let (tail, rest) ← blockText? quote fuel rest
        return (quotes ++ tail, rest)
    else if c = '\\' && quote = '"' then
      match afterContinuation? s with
      | some s => blockText? quote fuel s
      | none => do
        let (d, s) ← escape? s
        let (tail, s) ← blockText? quote fuel s
        return (d :: tail, s)
    else
      match afterNewline? (c :: s) with
      | some s => do
        let (tail, s) ← blockText? quote fuel s
        return ('\n' :: tail, s)
      | none =>
        if isPlain c then do
          let (tail, s) ← blockText? quote fuel s
          return (c :: tail, s)
        else
          none

/-- A quoted text, on one line or in triple quotes. A line end after three opening quotes does
not count. -/
def quoted? (blocks : Bool) : Reader String
  | c :: s =>
    if c != '"' && c != '\'' then
      none
    else
      match s with
      | d :: e :: rest =>
        if blocks && d = c && e = c then do
          let rest := (afterNewline? rest).getD rest
          let (body, rest) ← blockText? c (rest.length + 1) rest
          return (String.ofList body, rest)
        else do
          let (body, rest) ← lineText? c (s.length + 1) s
          return (String.ofList body, rest)
      | s => do
        let (body, rest) ← lineText? c (s.length + 1) s
        return (String.ofList body, rest)
  | [] => none

def isBareKeyChar (c : Char) : Bool := Text.isAsciiWord c || c == '-'

/-- One part of a key. -/
def keyPart? (s : List Char) : Option (String × List Char) :=
  match s.span isBareKeyChar with
  | ([], _) => quoted? false s
  | (bare, rest) => some (String.ofList bare, rest)

/-- The parts of a key with dots between them, in reverse; blanks around them do not count. -/
def keyParts? : Nat → Reader (List String)
  | 0, _ => none
  | fuel + 1, s => do
    let (part, rest) ← keyPart? (skipBlanks s)
    match skipBlanks rest with
    | '.' :: rest =>
      let (parts, rest) ← keyParts? fuel rest
      return (part :: parts, rest)
    | rest => return ([part], rest)

/-- How many lists and tables in line may stand inside each other, and the parts of a key. -/
def depthLimit : Nat := 79

/-- A key: the path to a table, and the name in it. -/
def key? (s : List Char) : Option ((List String × String) × List Char) := do
  let (parts, rest) ← keyParts? (s.length + 1) s
  let last ← parts.getLast?
  if parts.length ≤ depthLimit then return ((parts.dropLast, last), rest) else none

/-- The items of a list up to its closing bracket. -/
def items? (item : Reader Toml) : Nat → Reader (List Toml)
  | 0, _ => none
  | fuel + 1, s =>
    match skipLines (s.length + 1) s with
    | ']' :: rest => some ([], rest)
    | s => do
      let (value, rest) ← item s
      match skipLines (rest.length + 1) rest with
      | ',' :: rest =>
        let (values, rest) ← items? item fuel rest
        return (value :: values, rest)
      | ']' :: rest => return ([value], rest)
      | _ => none

/-- The entries of a table in line up to its closing brace. -/
def entries? (item : Reader Toml) : Nat → Node.Entries → Reader Node.Entries
  | 0, _, _ => none
  | fuel + 1, entries, s => do
    let ((path, key), rest) ← key? s
    match rest with
    | '=' :: rest =>
      let (value, rest) ← item (skipBlanks rest)
      let entries ← Node.assign path key value entries
      match skipBlanks rest with
      | ',' :: rest => entries? item fuel entries rest
      | '}' :: rest => return (entries, rest)
      | _ => none
    | _ => none

/-- A value; `room` is how many lists and tables may still stand inside each other. -/
def value? : (room : Nat) → Reader Toml
  | _, '"' :: s => (quoted? true ('"' :: s)).map fun (content, rest) => (.text content, rest)
  | _, '\'' :: s => (quoted? true ('\'' :: s)).map fun (content, rest) => (.text content, rest)
  | room + 1, '[' :: s => do
    let (items, rest) ← items? (value? room) (s.length + 1) s
    return (.array items, rest)
  | room + 1, '{' :: s =>
    match skipBlanks s with
    | '}' :: rest => some (.table [], rest)
    | s => do
      let (entries, rest) ← entries? (value? room) (s.length + 1) [] s
      return (.table (Node.entriesToToml entries), rest)
  | _, s =>
    let (word, rest) := word s
    (scalar? word).map (·, rest)

/-- The header of a table, after its opening bracket, up to the end of its line. -/
def header? (repeated : Bool) (s : List Char) : Option ((List String × String) × List Char) := do
  let (key, rest) ← key? s
  match repeated, rest with
  | false, ']' :: rest => return (key, ← lineEnd? rest)
  | true, ']' :: ']' :: rest => return (key, ← lineEnd? rest)
  | _, _ => none

/-- The lines of a document. `header` is the path of the table that is open. -/
def lines? : Nat → (header : List String) → Node.Entries → List Char → Option Node.Entries
  | 0, _, _, _ => none
  | fuel + 1, header, entries, s =>
    match skipBlanks s with
    | [] => some entries
    | '[' :: '[' :: s => do
      let ((path, key), rest) ← header? true s
      lines? fuel (path ++ [key]) (← Node.openRepeated path key entries) rest
    | '[' :: s => do
      let ((path, key), rest) ← header? false s
      lines? fuel (path ++ [key]) (← Node.openTable path key entries) rest
    | s =>
      match lineEnd? s with
      | some rest => lines? fuel header entries rest
      | none => do
        let ((path, key), rest) ← key? s
        match rest with
        | '=' :: rest =>
          let (value, rest) ← value? depthLimit (skipBlanks rest)
          let rest ← lineEnd? rest
          let entries ← Node.within false (fun _ table => Node.assign path key value table)
            header false entries
          lines? fuel header entries rest
        | _ => none

/-- The table that a document describes. A byte order mark does not count. -/
def parse? (document : String) : Option (List (String × Toml)) := do
  let s := match document.toList with
    | '\ufeff' :: s => s
    | s => s
  let entries ← lines? (s.length + 1) [] [] s
  return Node.entriesToToml entries

end ComponentCompiler.Toml
