import ComponentCompiler.Path
import ComponentCompiler.Text.Offset

/-!
# Source texts and places in them

A source text knows its lines. Offsets count bytes; lines and columns count from one. A span
names a source of a set by its number and gives two offsets in order.
-/

namespace ComponentCompiler

/-- A named text. -/
structure SourceText where
  path : Path
  content : String
  deriving DecidableEq, Repr, Inhabited

namespace SourceText

def chars (source : SourceText) : List Char := source.content.toList

/-- The number of bytes. -/
def length (source : SourceText) : Nat := Text.byteLength source.chars

/-- The offsets after each line feed, for a text that starts at the given offset. -/
def startsAfter (offset : Nat) : List Char → List Nat
  | [] => []
  | c :: rest =>
    let next := offset + c.utf8Size
    if c = '\n' then next :: startsAfter next rest else startsAfter next rest

/-- The offsets at which lines start. -/
def lineStarts (source : SourceText) : List Nat := 0 :: startsAfter 0 source.chars

def lineCount (source : SourceText) : Nat := source.lineStarts.length

/-- The line and column of an offset; offsets past the end stand for the end. -/
def lineColumn (source : SourceText) (offset : Nat) : Nat × Nat :=
  let offset := min offset source.length
  let before := source.lineStarts.filter (· ≤ offset)
  (before.length, offset - before.getLast?.getD 0 + 1)

/-- The byte offset for a count of 16-bit units. -/
def byteOffsetOfUnits (source : SourceText) (units : Nat) : Nat :=
  Text.byteOfUnit source.chars units

/-- The text between two offsets; none if an offset is out of range, inside a character or the
two are out of order. -/
def textBetween? (source : SourceText) (start stop : Nat) : Option String :=
  (Text.betweenBytes? source.chars start stop).map String.ofList

/-- The characters of a line, counted from zero, without its line feed and without carriage
returns at its end. -/
def lineChars? (source : SourceText) (index : Nat) : Option (List Char) :=
  (Text.pieces '\n' source.chars)[index]?.map (Text.dropTail (· == '\r'))

def lineText? (source : SourceText) (index : Nat) : Option String :=
  (source.lineChars? index).map String.ofList

end SourceText

/-- A range of offsets in a source of a set. -/
structure Span where
  file : Nat
  start : Nat
  stop : Nat
  deriving DecidableEq, Repr, Inhabited

namespace Span

/-- The number that stands for no source. -/
def noFile : Nat := 2 ^ 32 - 1

/-- The span of a message without a place. -/
def nowhere : Span := ⟨noFile, 0, 0⟩

/-- The span between two offsets, whichever comes first. -/
def between (file a b : Nat) : Span := ⟨file, min a b, max a b⟩

def isNowhere (span : Span) : Bool := span.file == noFile

end Span
end ComponentCompiler
