import ComponentCompiler.Text.Lines
import ComponentCompiler.Text.Word

/-!
# Finding and replacing parts of a text

A scanner looks at one place of a text: it sees the character before the place and what follows,
and tells what follows the part that it recognises there. A replacer also gives what stands for
the part. Replacing goes from left to right, never looks at a part again, and leaves every other
character as it is.
-/

namespace ComponentCompiler.Text

/-- Recognises a part of a text at one place; the result is the text after the part. -/
abbrev Scanner := (before : Option Char) → List Char → Option (List Char)

/-- Recognises a part and gives its replacement and the text after the part. -/
abbrev Replacer := (before : Option Char) → List Char → Option (List Char × List Char)

/-- Whether a scanner recognises a part that starts at some character of a text. -/
def found (scan : Scanner) : (before : Option Char) → List Char → Bool
  | _, [] => false
  | before, c :: s => (scan before (c :: s)).isSome || found scan (some c) s

/-- How many characters a part has when `rest` follows it, after the first one. -/
def extra (s rest : List Char) : Nat := s.length - rest.length

/-- Replaces every part that is recognised; `skip` characters belong to the last one. -/
def Replacer.everywhere (rule : Replacer) :
    (before : Option Char) → (skip : Nat) → List Char → List Char
  | _, _, [] => []
  | _, skip + 1, c :: s => Replacer.everywhere rule (some c) skip s
  | before, 0, c :: s =>
    match rule before (c :: s) with
    | some (replacement, rest) => replacement ++ Replacer.everywhere rule (some c) (extra s rest) s
    | none => c :: Replacer.everywhere rule (some c) 0 s

/-- Replaces the first part that is recognised. -/
def Replacer.once (rule : Replacer) : (before : Option Char) → List Char → List Char
  | _, [] => []
  | before, c :: s =>
    match rule before (c :: s) with
    | some (replacement, rest) => replacement ++ rest
    | none => c :: Replacer.once rule (some c) s

/-- Replaces every occurrence of a fixed text, from left to right. -/
def replaceEvery (part replacement : List Char) (s : List Char) : List Char :=
  Replacer.everywhere (fun _ s => (after? part s).map fun rest => (replacement, rest)) none 0 s

/-- Reads a fixed word. -/
def word? (word : String) (s : List Char) : Option (List Char) := after? word.toList s

/-- Reads the first of some fixed words that comes next. -/
def oneOf? (words : List String) (s : List Char) : Option (List Char) :=
  words.findSome? fun word => word? word s

/-- Reads as many characters of a class as there are, at least one. -/
def run? (p : Char → Bool) (s : List Char) : Option (List Char × List Char) :=
  match s.span p with
  | ([], _) => none
  | found => some found

/-- Drops blanks. -/
def skipBlanks (s : List Char) : List Char := s.dropWhile isBlank

/-- At least one blank. -/
def blanks? (s : List Char) : Option (List Char) := (run? isBlank s).map (·.2)

/-- Succeeds where a word starts or ends. -/
def boundary? (before : Option Char) (s : List Char) : Option Unit :=
  if isWordBoundary before s.head? then some () else none

theorem Replacer.everywhere_nil (rule : Replacer) (before : Option Char) (skip : Nat) :
    Replacer.everywhere rule before skip [] = [] := by cases skip <;> rfl

end ComponentCompiler.Text
