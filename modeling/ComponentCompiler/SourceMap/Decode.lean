import ComponentCompiler.Json.Parser
import ComponentCompiler.Json.Printer
import ComponentCompiler.Json.Record
import ComponentCompiler.SourceMap.Basic
import ComponentCompiler.SourceMap.Vlq
import ComponentCompiler.Text.Lines

/-!
# Reading source maps

A map is a JSON object. Its mappings are one text: semicolons separate generated lines, commas
the segments of a line. Generated columns count on from the segment before on the line; sources,
their lines and columns, and names count on through the whole text. All results have 32 bits.
-/

namespace ComponentCompiler.SourceMap

/-- A number moved on by a difference, in 32 bits. -/
def advance (x : UInt32) (delta : Int) : UInt32 :=
  UInt32.ofNat ((x.toNat + delta) % 2 ^ 32).toNat

/-- The numbers that count on through all mappings. -/
structure Cursor where
  source : UInt32 := 0
  sourceLine : UInt32 := 0
  sourceColumn : UInt32 := 0
  name : UInt32 := 0
  deriving DecidableEq, Repr

/-- How many sources and names may be referred to. -/
structure Bounds where
  sources : Nat
  names : Nat

/-- A reference that is in bounds. -/
def checked (error : Nat → MapError) (bound : Nat) (id : UInt32) : Except MapError Nat :=
  if id.toNat < bound then .ok id.toNat else .error (error id.toNat)

/-- The mapping of one segment from its differences, after the one of the generated column. -/
def mappingOf (bounds : Bounds) (line column : UInt32) (isRange : Bool) (cursor : Cursor) :
    List Int → Except MapError (Mapping × Cursor)
  | [] => .ok (⟨line, column, cursor.sourceLine, cursor.sourceColumn, none, none, isRange⟩, cursor)
  | [source, sourceLine, sourceColumn] => do
    let id := advance cursor.source source
    let known ← checked .sourceReference bounds.sources id
    let cursor := { cursor with
      source := id
      sourceLine := advance cursor.sourceLine sourceLine
      sourceColumn := advance cursor.sourceColumn sourceColumn }
    return (⟨line, column, cursor.sourceLine, cursor.sourceColumn, some known, none, isRange⟩,
      cursor)
  | [source, sourceLine, sourceColumn, name] => do
    let id := advance cursor.source source
    let known ← checked .sourceReference bounds.sources id
    let nameId := advance cursor.name name
    let knownName ← checked .nameReference bounds.names nameId
    let cursor : Cursor := {
      source := id
      sourceLine := advance cursor.sourceLine sourceLine
      sourceColumn := advance cursor.sourceColumn sourceColumn
      name := nameId }
    return (⟨line, column, cursor.sourceLine, cursor.sourceColumn, some known, some knownName,
      isRange⟩, cursor)
  | numbers => .error (.segmentSize (numbers.length + 1))

/-- The mappings of the segments of one line, each with its range flag. Empty segments have no
mapping. -/
def lineMappings (bounds : Bounds) (line : UInt32) : (column : UInt32) → Cursor →
    List (List Char × Bool) → Except MapError (List Mapping × Cursor)
  | _, cursor, [] => .ok ([], cursor)
  | column, cursor, ([], _) :: rest => lineMappings bounds line column cursor rest
  | column, cursor, (segment, isRange) :: rest => do
    let numbers ← Vlq.decode segment
    let column := advance column (numbers.headD 0)
    let (mapping, cursor) ← mappingOf bounds line column isRange cursor numbers.tail
    let (mappings, cursor) ← lineMappings bounds line column cursor rest
    return (mapping :: mappings, cursor)

/-- The character with the number of the first byte of a character. -/
def firstByte (c : Char) : Char :=
  Char.ofNat ((String.singleton c).toUTF8.toList.headD 0).toNat

/-- The six flags of a digit, the lowest bit first. -/
def flagsOf (c : Char) : Except MapError (List Bool) :=
  match Text.Base64.value? c with
  | some n => .ok ((List.range 6).map fun bit => n / 2 ^ bit % 2 == 1)
  | none => .error (.base64Character (firstByte c))

/-- The range flags of the segments of a line. -/
def rangeFlags (digits : List Char) : Except MapError (List Bool) := do
  return (← digits.mapM flagsOf).flatten

/-- Pairs every segment with its flag; without one it is no range. -/
def withFlags : List (List Char) → List Bool → List (List Char × Bool)
  | [], _ => []
  | segment :: rest, [] => (segment, false) :: withFlags rest []
  | segment :: rest, flag :: flags => (segment, flag) :: withFlags rest flags

/-- The mappings of all lines from the given one on. `ranges` are the range flags line by line. -/
def linesMappings (bounds : Bounds) : (line : Nat) → Cursor → (lines ranges : List (List Char)) →
    Except MapError (List Mapping)
  | _, _, [], _ => .ok []
  | line, cursor, text :: rest, ranges =>
    if text.isEmpty then
      linesMappings bounds (line + 1) cursor rest ranges.tail
    else do
      let flags ← rangeFlags (ranges.headD [])
      let segments := withFlags (Text.pieces ',' text) flags
      let (mappings, cursor) ← lineMappings bounds (UInt32.ofNat line) 0 cursor segments
      let more ← linesMappings bounds (line + 1) cursor rest ranges.tail
      return mappings ++ more

/-- The mappings of a text, with the range flags of another. -/
def decodeMappings (bounds : Bounds) (mappings ranges : String) : Except MapError (List Mapping) :=
  linesMappings bounds 0 {} (Text.pieces ';' mappings.toList) (Text.pieces ';' ranges.toList)

/-- The function names of a source with their mappings. -/
def functionShape : Json.Shape := .plain ["names", "mappings"]

/-- The place where a section starts. -/
def offsetShape : Json.Shape := .plain ["line", "column"]

/-- A part of a file with a map of its own. -/
def sectionShape (map : Json.Shape) : Json.Shape :=
  .record [("offset", offsetShape), ("url", .whole), ("map", map)]

/-- The shape of a map with sections down to a depth. -/
def shape : (depth : Nat) → Json.Shape
  | 0 => .whole
  | depth + 1 =>
    .record [("version", .whole), ("file", .whole), ("sources", .whole), ("sourceRoot", .whole),
      ("sourcesContent", .whole), ("sections", .list (sectionShape (shape depth))),
      ("names", .whole), ("rangeMappings", .whole), ("mappings", .whole),
      ("x_facebook_offsets", .whole), ("x_metro_module_paths", .whole),
      ("x_facebook_sources", .list (.list functionShape)), ("debug_id", .whole)]

/-- The name of a symbol; a number stands for its digits. -/
def nameText : Json → String
  | .text s => s
  | .integer n => String.ofList (Json.integerChars n)
  | .float x => String.ofList (Json.floatChars x)
  | _ => ""

def fileText : Json → String
  | .text s => s
  | _ => "<invalid>"

/-- The parts of a map before its mappings are read. -/
structure Parts where
  file : Option Json
  sources : List String
  root : Option String
  contents : List (Option String)
  names : List Json
  ranges : String
  mappings : String
  /-- The maps of the sections, as far as they have one. -/
  sections : Option (List (Option Json))
  /-- Whether there are function names. -/
  hasFunctions : Bool
  debugId : Option DebugId

/-- The function names of one source; they mean nothing here. -/
def functionsOf? (value : Json) : Option Unit := do
  let members ← value.record? functionShape 2
  let _ ← members.required? "names" (Json.asList? Json.asText?)
  let _ ← members.required? "mappings" Json.asText?

/-- The map of a section, which starts at a line and a column. -/
def sectionOf? (value : Json) : Option (Option Json) := do
  let number := Json.asNatural? (2 ^ 32)
  let members ← value.record? (sectionShape .whole) 3
  let _ ← members.required? "offset" fun offset => do
    let offset ← offset.record? offsetShape 2
    return (← offset.required? "line" number, ← offset.required? "column" number)
  let _ ← members.optional? "url" Json.asText?
  members.optional? "map" some

/-- The parts of a map with values of the right kinds. -/
def parts? (document : Json) : Option Parts := do
  let members ← document.record? (shape 1) 13
  let text := Json.asText?
  let number := Json.asNatural? (2 ^ 32)
  let _ ← members.optional? "version" number
  let file ← members.optional? "file" some
  let sources ← members.optional? "sources" (Json.asList? (Json.asOptional? text))
  let root ← members.optional? "sourceRoot" text
  let contents ← members.optional? "sourcesContent" (Json.asList? (Json.asOptional? text))
  let sections ← members.optional? "sections" (Json.asList? sectionOf?)
  let names ← members.optional? "names" Json.asArray?
  let ranges ← members.optional? "rangeMappings" text
  let mappings ← members.optional? "mappings" text
  let _ ← members.optional? "x_facebook_offsets" (Json.asList? (Json.asOptional? number))
  let _ ← members.optional? "x_metro_module_paths" (Json.asList? text)
  let functions ← members.optional? "x_facebook_sources"
    (Json.asList? (Json.asOptional? (Json.asList? functionsOf?)))
  let debugId ← members.optional? "debug_id" DebugId.ofJson?
  return {
    file := file
    sources := (sources.getD []).map (·.getD "")
    root
    contents := contents.getD []
    names := names.getD []
    ranges := ranges.getD ""
    mappings := mappings.getD ""
    sections
    hasFunctions := functions.isSome
    debugId }

/-- The map of parts without sections. -/
def ofParts (parts : Parts) : Except MapError SourceMap := do
  let bounds := ⟨parts.sources.length, parts.names.length⟩
  let mappings ← decodeMappings bounds parts.mappings parts.ranges
  return {
    file := parts.file.map fileText
    root := parts.root
    rawSources := parts.sources
    contents := parts.contents
    names := parts.names.map nameText
    mappings
    debugId := parts.debugId }

/-- Whether a map and those of all its sections, down to a depth, have values of the right
kinds. -/
def isWellFormed : (depth : Nat) → Json → Bool
  | 0, _ => false
  | depth + 1, document =>
    match parts? document with
    | none => false
    | some parts => ((parts.sections.getD []).filterMap id).all (isWellFormed depth)

/-- The first error in a map, or in those of its sections, down to a depth. -/
def firstError? : (depth : Nat) → Json → Option MapError
  | 0, _ => some .malformed
  | depth + 1, document =>
    match parts? document with
    | none => some .malformed
    | some parts =>
      match parts.sections with
      | some sections => (sections.filterMap id).findSome? (firstError? depth)
      | none =>
        match ofParts parts with
        | .ok _ => none
        | .error e => some e

/-- The map that a document describes. Maps in sections, and those with function names, are
read but not used. -/
def ofJson (document : Json) : Except MapError SourceMap :=
  let depth := document.depth + 1
  match isWellFormed depth document, parts? document with
  | true, some parts =>
    if parts.sections.isSome then
      .error ((firstError? depth document).getD .incompatible)
    else do
      let map ← ofParts parts
      if parts.hasFunctions then throw .incompatible
      return map
  | _, _ => .error .malformed

/-- A character of the line that may stand before a map. -/
def isJunk (byte : UInt8) : Bool := [')', ']', '}', '\''].any fun c => c.toNat == byte.toNat

/-- The rest after the first line; a carriage return has to stand before a line feed. -/
def afterJunk : List UInt8 → Except MapError (List UInt8)
  | [] => .ok []
  | byte :: rest =>
    if byte = 10 then .ok (byte :: rest)
    else if byte = 13 then
      match rest with
      | [] => .ok []
      | next :: _ => if next = 10 then .ok rest else .error .expectedNewline
    else afterJunk rest

/-- The bytes of a map without the line of junk before it. -/
def withoutJunk : List UInt8 → Except MapError (List UInt8)
  | [] => .ok []
  | byte :: rest => if isJunk byte then afterJunk rest else .ok (byte :: rest)

/-- The map in a file. -/
def ofBytes (bytes : List UInt8) : Except MapError SourceMap := do
  let bytes ← withoutJunk bytes
  match Json.ofBytes? (shape Json.depthLimit) bytes with
  | some document => ofJson document
  | none => throw .malformed

end ComponentCompiler.SourceMap
