import ComponentCompiler.Component.Basic
import ComponentCompiler.Json.Record

/-!
# Components as JSON

The form in which blocks, scripts and whole components are exchanged with the compiler. Absent
texts and empty attributes are left out of a block; a component always shows all its parts.
-/

namespace ComponentCompiler

/-- One more than the greatest offset in a document. -/
def offsetLimit : Nat := 2 ^ 64

def BlockKind.ofJson? (value : Json) : Option BlockKind :=
  value.asName?.bind ofName?

namespace Block

def shape : Json.Shape :=
  .plain ["type", "content", "src", "lang", "attrs", "start", "end"]

def attributesOf? (value : Json) : Option Attributes :=
  value.asObject?.map fun members => Keyed.sorted (Json.canonicalMembers members)

def ofJson? (value : Json) : Option Block := do
  let members ← value.record? shape 1
  return {
    kind := ← members.required? "type" BlockKind.ofJson?
    content := ← members.defaulted? "content" "" Json.asText?
    src := ← members.optional? "src" Json.asText?
    lang := ← members.optional? "lang" Json.asText?
    attributes := ← members.defaulted? "attrs" [] attributesOf?
    start := ← members.defaulted? "start" 0 (Json.asNatural? offsetLimit)
    stop := ← members.defaulted? "end" 0 (Json.asNatural? offsetLimit) }

instance : Json.Readable Block := ⟨shape, ofJson?⟩

def toJson (block : Block) : Json :=
  .object ([("type", .text block.kind.name), ("content", .text block.content)] ++
    Json.member? "src" (block.src.map .text) ++
    Json.member? "lang" (block.lang.map .text) ++
    (if block.attributes.isEmpty then [] else [("attrs", .object block.attributes)]) ++
    [("start", .integer block.start), ("end", .integer block.stop)])

end Block

namespace CompiledScript

def shape : Json.Shape := .plain ["content", "src", "lang", "setup", "map", "bindings"]

def ofJson? (value : Json) : Option CompiledScript := do
  let members ← value.record? shape 0
  return {
    content := ← members.defaulted? "content" "" Json.asText?
    src := ← members.optional? "src" Json.asText?
    lang := ← members.optional? "lang" Json.asText?
    setup := ← members.defaulted? "setup" false Json.asBool?
    map := ← members.optional? "map" Json.passedOn
    bindings := ← members.optional? "bindings" Json.passedOn }

instance : Json.Readable CompiledScript := ⟨shape, ofJson?⟩

def toJson (script : CompiledScript) : Json :=
  .object ([("content", .text script.content)] ++
    Json.member? "src" (script.src.map .text) ++
    Json.member? "lang" (script.lang.map .text) ++
    [("setup", .bool script.setup)] ++
    Json.member? "map" script.map ++
    Json.member? "bindings" script.bindings)

end CompiledScript

namespace Descriptor

def shape : Json.Shape :=
  .record [("template", Block.shape), ("script", Block.shape), ("scriptSetup", Block.shape),
    ("styles", .list Block.shape)]

def ofJson? (value : Json) : Option Descriptor := do
  let members ← value.record? shape 0
  return {
    template := ← members.optional? "template" Block.ofJson?
    script := ← members.optional? "script" Block.ofJson?
    scriptSetup := ← members.optional? "scriptSetup" Block.ofJson?
    styles := ← members.defaulted? "styles" [] (Json.asList? Block.ofJson?) }

instance : Json.Readable Descriptor := ⟨shape, ofJson?⟩

def toJson (d : Descriptor) : Json :=
  .object [("template", Json.ofOption (d.template.map Block.toJson)),
    ("script", Json.ofOption (d.script.map Block.toJson)),
    ("scriptSetup", Json.ofOption (d.scriptSetup.map Block.toJson)),
    ("styles", .array (d.styles.map Block.toJson))]

end Descriptor
end ComponentCompiler
