import ComponentCompiler.Json.Printer
import ComponentCompiler.Json.Record
import ComponentCompiler.SourceMap.Basic
import ComponentCompiler.SourceMap.Vlq

/-!
# Writing source maps

A map is written in version 3 of the format. A mapping that repeats the one before it on its line
is left out, a mapping without a source is its column alone, and a name is written only beside a
source. Range flags are not written.
-/

namespace ComponentCompiler.SourceMap

/-- The number that stands for a missing source or name. -/
def absent : Nat := 2 ^ 32 - 1

/-- What the next mapping is written relative to. -/
structure Pen where
  line : Nat := 0
  column : Nat := 0
  source : Nat := 0
  sourceLine : Nat := 0
  sourceColumn : Nat := 0
  name : Nat := 0

def difference (new old : Nat) : List Char := Vlq.encode ((new : Int) - old)

/-- The symbol name of a mapping, if the map has it. -/
def namePart (map : SourceMap) (pen : Pen) (m : Mapping) : List Char × Nat :=
  match m.name, map.nameOf m with
  | some id, some _ => (difference id pen.name, id)
  | _, _ => ([], pen.name)

/-- One segment. -/
def segmentChars (map : SourceMap) (pen : Pen) (m : Mapping) : List Char × Pen :=
  let column := difference m.column.toNat pen.column
  match m.source with
  | none => (column, { pen with column := m.column.toNat })
  | some id =>
    let (name, nameId) := namePart map pen m
    (column ++ difference id pen.source ++ difference m.sourceLine.toNat pen.sourceLine ++
        difference m.sourceColumn.toNat pen.sourceColumn ++ name,
      { pen with
        column := m.column.toNat
        source := id
        sourceLine := m.sourceLine.toNat
        sourceColumn := m.sourceColumn.toNat
        name := nameId })

/-- The mappings after `previous`, whose lines never decrease. -/
def mappingChars (map : SourceMap) : Pen → (previous : Option Mapping) → List Mapping → List Char
  | _, _, [] => []
  | pen, previous, m :: rest =>
    if m.line.toNat = pen.line then
      if previous = some m then
        mappingChars map pen (some m) rest
      else
        let (segment, next) := segmentChars map pen m
        (if previous.isSome then [','] else []) ++ segment ++ mappingChars map next (some m) rest
    else
      let pen' := { pen with line := m.line.toNat, column := 0 }
      let (segment, next) := segmentChars map pen' m
      List.replicate (m.line.toNat - pen.line) ';' ++ segment ++
        mappingChars map next (some m) rest

/-- The contents of as many sources as there are. -/
def writtenContents (map : SourceMap) : List (Option String) :=
  (List.range map.rawSources.length).map map.contentAt

/-- The document of a map. -/
def toJson (map : SourceMap) : Json :=
  .object ([("version", .integer 3)] ++
    Json.member? "file" (map.file.map .text) ++
    [("sources", .array (map.rawSources.map .text))] ++
    Json.member? "sourceRoot" (map.root.map .text) ++
    (if map.writtenContents.any Option.isSome then
      [("sourcesContent", .array (map.writtenContents.map Json.ofText?))] else []) ++
    [("names", .array (map.names.map .text)),
      ("mappings", .text (String.ofList (mappingChars map {} none map.mappings)))] ++
    Json.member? "debug_id" (map.debugId.map fun id => .text id.text))

/-- The text of a map. -/
def text (map : SourceMap) : String := map.toJson.compact

end ComponentCompiler.SourceMap
