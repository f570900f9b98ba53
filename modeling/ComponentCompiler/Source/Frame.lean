import ComponentCompiler.Arithmetic
import ComponentCompiler.Source.Text

/-!
# Code frames

A frame shows the lines of a range with two lines of context on both sides. Every line of the
range is followed by a row with carets under its part of the range, at least one.

Offsets, lines and columns are numbers of 32 bits. A frame is drawn from the starts of the lines
alone: the line of an offset is found among them by halving, every text is cut out between two of
them, and carets are counted off in what is cut out. Each of these steps may fail: a place may lie
outside the starts, a difference below zero, a sum beyond 32 bits. There is no result then.
-/

namespace ComponentCompiler

namespace SourceText

/-- How many lines are shown around a range. -/
def linesAround : Nat := 2

/-- The number of a line, padded to three places, and its text. -/
def frameLine (number : Nat) (text : List Char) : List Char :=
  let digits := Nat.toDigits 10 number
  digits ++ List.replicate (3 - digits.length) ' ' ++ "|  ".toList ++ text

/-- Carets below a line that starts at the offset `lineStart`, for the range from `start` to
`stop`. -/
def caretRow (text : List Char) (lineStart start stop : Nat) : List Char :=
  let length := Text.byteLength text
  let first := min (max start lineStart - lineStart) length
  let last := max first (min (min stop (lineStart + length) - lineStart) length)
  let column := match Text.betweenBytes? text 0 first with
    | some front => front.length
    | none => first
  let width := match Text.betweenBytes? text first last with
    | some middle => middle.length
    | none => last - first
  "   |  ".toList ++ List.replicate column ' ' ++ List.replicate (max width 1) '^'

/-- The rows of one line of a frame: the line, and carets if it belongs to the range. -/
def frameRows? (source : SourceText) (start stop index : Nat) : Option (List (List Char)) := do
  let text ← source.lineChars? index
  let lineStart ← source.lineStarts[index]?
  let number := index + 1
  let row := frameLine number text
  let (startLine, _) := source.lineColumn start
  let (stopLine, _) := source.lineColumn stop
  if number < startLine || stopLine < number then
    return [row]
  else
    return [row, caretRow text lineStart start stop]

/-- The frame of a range. Offsets past the end stand for the end, and an end before the start
for the start. -/
def frame? (source : SourceText) (start stop : Nat) : Option String := do
  let start := min start source.length
  let stop := max start (min stop source.length)
  let (startLine, _) := source.lineColumn start
  let (stopLine, _) := source.lineColumn stop
  let first := startLine - 1 - linesAround
  let last := min (stopLine - 1 + linesAround) (source.lineCount - 1)
  let rows ← (List.range' first (last + 1 - first)).mapM (source.frameRows? start stop)
  return String.ofList (Text.joined ['\n'] rows.flatten)

/-- The number of bytes as a number of 32 bits. -/
def wordLength (source : SourceText) : UInt32 := UInt32.ofNat source.length

/-- The offsets at which lines start, as numbers of 32 bits. -/
def wordStarts (source : SourceText) : List UInt32 := source.lineStarts.map UInt32.ofNat

/-- Where a search ends: at a place that holds what was looked for, or at the place where it would
have to be put. -/
inductive Place where
  | hit (index : Nat)
  | miss (index : Nat)

/-- The place where the line starts that a search ends on. -/
def Place.lineIndex? : Place → Option Nat
  | hit index => some index
  | miss index => difference? index 1

/-- Looks for an offset among the starts from the place `low` up to the place `high`. -/
def search? (starts : List Nat) (offset low high : Nat) : Option Place :=
  if low < high then
    let middle := low + (high - low) / 2
    match starts[middle]? with
    | none => none
    | some start =>
      if start = offset then some (.hit middle)
      else if start < offset then search? starts offset (middle + 1) high
      else search? starts offset low middle
  else some (.miss low)
termination_by high - low

/-- The line of an offset and its column, looked up by halving. -/
def searchedLineColumn? (source : SourceText) (offset : UInt32) : Option (UInt32 × UInt32) := do
  let offset := min offset source.wordLength
  let starts := source.wordStarts
  let place ← search? (starts.map UInt32.toNat) offset.toNat 0 starts.length
  let index ← place.lineIndex?
  let line ← wordSum? (UInt32.ofNat index) 1
  let start ← starts[index]?
  let along ← wordDifference? offset start
  let column ← wordSum? along 1
  return (line, column)

/-- The offset at which the line feed of a line stands, or the end of the text. -/
def lineStop? (source : SourceText) (index : Nat) : Option Nat :=
  (source.wordStarts[index + 1]?).elim (some source.length) fun next => difference? next.toNat 1

/-- The text of a line, cut out of the source. -/
def cutLine? (source : SourceText) (index : Nat) : Option (List Char) := do
  let start ← source.wordStarts[index]?
  let stop ← source.lineStop? index
  let line ← Text.betweenBytes? source.chars start.toNat stop
  return Text.dropTail (· == '\r') line

/-- The carets below a line. -/
def drawnCaretRow? (text : List Char) (lineStart start stop : UInt32) : Option (List Char) := do
  let length := Text.byteLength text
  let lineStop ← wordSum? lineStart (UInt32.ofNat length)
  let ahead ← wordDifference? (max start lineStart) lineStart
  let first := min ahead.toNat length
  let last ← clamp? ((min stop lineStop).toNat - lineStart.toNat) first length
  let rest ← difference? last first
  let column := match Text.betweenBytes? text 0 first with
    | some front => front.length
    | none => first
  let width := match Text.betweenBytes? text first last with
    | some middle => middle.length
    | none => rest
  return "   |  ".toList ++ List.replicate column ' ' ++ List.replicate (max width 1) '^'

/-- The rows of a line, for a range from one line to another. -/
def drawnRows? (source : SourceText) (start stop startLine stopLine : UInt32) (index : Nat) :
    Option (List (List Char)) := do
  let text ← source.cutLine? index
  let row := frameLine (index + 1) text
  let line ← wordSum? (UInt32.ofNat index) 1
  if line < startLine || stopLine < line then
    return [row]
  else
    let lineStart ← source.wordStarts[index]?
    let carets ← drawnCaretRow? text lineStart start stop
    return [row, carets]

/-- The frame of a range. -/
def drawnFrame? (source : SourceText) (start stop : UInt32) : Option String := do
  let start := min start source.wordLength
  let stop ← wordClamp? stop start source.wordLength
  let (startLine, _) ← source.searchedLineColumn? start
  let (stopLine, _) ← source.searchedLineColumn? stop
  let startIndex ← difference? startLine.toNat 1
  let stopIndex ← difference? stopLine.toNat 1
  let lastIndex ← difference? source.lineCount 1
  let first := startIndex - linesAround
  let last := min (stopIndex + linesAround) lastIndex
  let rows ← (List.range' first (last + 1 - first)).mapM
    (source.drawnRows? start stop startLine stopLine)
  return String.ofList (Text.joined ['\n'] rows.flatten)

end SourceText

/-- Source texts, numbered in the order in which they were added. -/
structure SourceSet where
  sources : List SourceText := []
  deriving Repr, Inhabited

namespace SourceSet

/-- Adds a source; its number is the number of sources before it. -/
def add (set : SourceSet) (source : SourceText) : SourceSet := ⟨set.sources ++ [source]⟩

/-- The number that the next source gets. -/
def nextId (set : SourceSet) : Nat := set.sources.length

def get? (set : SourceSet) (id : Nat) : Option SourceText := set.sources[id]?

/-- The frame of a span, if it has a place in a source of the set. -/
def frame? (set : SourceSet) (span : Span) : Option String :=
  if span.isNowhere then
    none
  else do
    let source ← set.get? span.file
    source.frame? span.start span.stop

/-- The frame of a span, if it has a place in a source of the set. There is no result if it cannot
be drawn. -/
def drawnFrame? (set : SourceSet) (span : Span) : Option (Option String) :=
  if span.isNowhere then
    some none
  else
    match set.get? span.file with
    | none => some none
    | some source =>
      (source.drawnFrame? (UInt32.ofNat span.start) (UInt32.ofNat span.stop)).map some

end SourceSet
end ComponentCompiler
