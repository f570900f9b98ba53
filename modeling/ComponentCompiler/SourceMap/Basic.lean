import ComponentCompiler.Arithmetic
import ComponentCompiler.SourceMap.DebugId
import ComponentCompiler.Text.Lines

/-!
# Source maps

A source map relates positions of a generated text to positions of the sources that it comes
from. Each mapping starts a segment of the generated text, which goes on to the next mapping.
Lines and columns count from zero here; `trace` counts lines from one, and has no result where a
number leaves its 32 bits on the way.

A map grows by sources, names and mappings. A source or name that is there already keeps its
number, so equal texts have equal numbers.
-/

namespace ComponentCompiler

/-- The start of a segment. A segment without a source was not written by anyone. The columns of
a range segment run along with those of its source. -/
structure Mapping where
  line : UInt32
  column : UInt32
  sourceLine : UInt32
  sourceColumn : UInt32
  source : Option Nat
  name : Option Nat
  isRange : Bool := false
  deriving DecidableEq, Repr, Inhabited

namespace Mapping

/-- The place of a generated position in reading order. -/
def orderOf (line column : UInt32) : Nat := line.toNat * 2 ^ 32 + column.toNat

/-- The place of a mapping in reading order. -/
def order (m : Mapping) : Nat := orderOf m.line m.column

/-- The source column of a generated column inside the segment. -/
def columnAt (m : Mapping) (column : UInt32) : UInt32 :=
  if m.isRange then
    UInt32.ofNat (min (m.sourceColumn.toNat + (column.toNat - m.column.toNat)) (2 ^ 32 - 1))
  else
    m.sourceColumn

/-- The source column of a generated column that is not before the segment. -/
def columnAt? (m : Mapping) (column : UInt32) : Option UInt32 :=
  if m.isRange then do
    let along ← wordDifference? column m.column
    return (wordSum? m.sourceColumn along).getD (UInt32.ofNat (2 ^ 32 - 1))
  else
    some m.sourceColumn

end Mapping

structure SourceMap where
  file : Option String := none
  /-- What the names of relative sources start with. -/
  root : Option String := none
  rawSources : List String := []
  /-- The texts of the sources, as far as they are embedded. -/
  contents : List (Option String) := []
  names : List String := []
  mappings : List Mapping := []
  debugId : Option DebugId := none
  deriving DecidableEq, Repr, Inhabited

/-- A position in a source; lines count from one. -/
structure Location where
  source : String
  line : UInt32
  column : UInt32
  name : Option String
  deriving DecidableEq, Repr

/-- The position of a text in a list, and the list with the text in it. -/
def placeOf (text : String) (list : List String) : Nat × List String :=
  match list.findIdx? (· == text) with
  | some id => (id, list)
  | none => (list.length, list ++ [text])

namespace SourceMap

/-- Whether a source stands for itself whatever the root is. -/
def isRooted (source : List Char) : Bool :=
  "/".toList.isPrefixOf source || "http:".toList.isPrefixOf source ||
    "https:".toList.isPrefixOf source

/-- A source under a root; the root loses one slash at its end. -/
def underRoot (root source : String) : String :=
  if isRooted source.toList then
    source
  else
    let base := root.toList
    let base := if base.getLast? = some '/' then base.dropLast else base
    String.ofList (base ++ '/' :: source.toList)

/-- The names of the sources. -/
def sources (map : SourceMap) : List String :=
  match map.root with
  | none => map.rawSources
  | some root => if root = "" then map.rawSources else map.rawSources.map (underRoot root)

/-- The name of the source of a mapping. -/
def sourceOf (map : SourceMap) (m : Mapping) : Option String :=
  m.source.bind fun id => map.sources[id]?

/-- The name of the symbol at a mapping. -/
def nameOf (map : SourceMap) (m : Mapping) : Option String :=
  m.name.bind fun id => map.names[id]?

/-- The embedded text of a source by its number. -/
def contentAt (map : SourceMap) (id : Nat) : Option String := (map.contents[id]?).join

/-- The embedded text of the first source with a name. -/
def contentOf (map : SourceMap) (source : String) : Option String :=
  (map.sources.findIdx? (· == source)).bind map.contentAt

/-- The later of two mappings in reading order; of equal ones the one stored later. -/
def later (best : Option Mapping) (m : Mapping) : Option Mapping :=
  match best with
  | none => some m
  | some b => if b.order ≤ m.order then some m else some b

/-- The mapping whose segment holds a place in reading order: the first one that starts there,
or else the last of those that start closest before it. -/
def nearest (mappings : List Mapping) (order : Nat) : Option Mapping :=
  match mappings.find? fun m => m.order == order with
  | some m => some m
  | none => (mappings.filter fun m => m.order < order).foldl later none

/-- The mapping with a source whose segment holds a position on the same line. -/
def covering (map : SourceMap) (line column : UInt32) : Option Mapping := do
  let m ← nearest map.mappings (Mapping.orderOf line column)
  let _ ← map.sourceOf m
  if m.line = line then some m else none

/-- Where a generated column in the segment of a mapping comes from. There is no result if the line,
counted from one, is beyond all numbers. -/
def locate (map : SourceMap) (m : Mapping) (column : UInt32) : Option (Option Location) :=
  match map.sourceOf m with
  | none => some none
  | some source => do
    let line ← wordSum? m.sourceLine 1
    let column ← m.columnAt? column
    return some ⟨source, line, column, map.nameOf m⟩

/-- Traces a generated position back to its source. -/
def traceAt (map : SourceMap) (line column : UInt32) : Option (Option Location) :=
  match map.covering line column with
  | none => some none
  | some m => map.locate m column

/-- Traces a generated position, with the line counted from one, back to its source. -/
def trace (map : SourceMap) (line column : UInt32) : Option (Option Location) :=
  match wordDifference? line 1 with
  | none => some none
  | some start => map.traceAt start column

/-- Whether the generated lines of the stored mappings never decrease. -/
def isOrdered (map : SourceMap) : Bool := go map.mappings
where
  go : List Mapping → Bool
    | m :: n :: rest => m.line ≤ n.line && go (n :: rest)
    | _ => true

/-- A map without sources, for a generated file. -/
def empty (file : Option String) : SourceMap := { file }

def internSource (map : SourceMap) (source : String) : Nat × SourceMap :=
  let (id, rawSources) := placeOf source map.rawSources
  (id, { map with rawSources })

def internName (map : SourceMap) (name : String) : Nat × SourceMap :=
  let (id, names) := placeOf name map.names
  (id, { map with names })

/-- Embeds the text of a source; the table of texts grows to the number of sources. -/
def setContent (map : SourceMap) (id : Nat) (content : Option String) : SourceMap :=
  let missing := map.rawSources.length - map.contents.length
  { map with contents := (map.contents ++ List.replicate missing none).set id content }

def addMapping (map : SourceMap) (mapping : Mapping) : SourceMap :=
  { map with mappings := map.mappings ++ [mapping] }

/-- A map of one source, line by line: every line that is not blank maps to itself. -/
def identity (file content : String) : SourceMap :=
  { file := some file
    rawSources := [file]
    contents := [some content]
    mappings := go 0 (Text.pieces '\n' content.toList) }
where
  /-- The mappings of lines from the given number on. -/
  go : Nat → List (List Char) → List Mapping
    | _, [] => []
    | number, line :: rest =>
      let here := UInt32.ofNat number
      if Text.isBlankText line then go (number + 1) rest
      else ⟨here, 0, here, 0, some 0, none, false⟩ :: go (number + 1) rest

end SourceMap
end ComponentCompiler
