import ComponentCompiler.Collaborator.Basic
import ComponentCompiler.Component.Wire

/-!
# What is said to collaborators

The JSON forms of requests and outputs. A complaint has three shapes: a bare text, a text `msg`
with offsets, or a text `message` with a location. The first that fits counts.
-/

namespace ComponentCompiler

namespace Complaint

/-- A message with offsets beside it; an end alone is no range. -/
def ofFlat? (value : Json) : Option Complaint := do
  let members ← value.record? (.plain ["msg", "start", "end"]) 3
  let offset := Json.asNatural? offsetLimit
  let message ← members.required? "msg" Json.asText?
  let start ← members.optional? "start" offset
  let stop ← members.optional? "end" offset
  return ⟨message, start.map fun start => (start, stop.getD start)⟩

/-- The offset of a place. -/
def offsetOf? (value : Json) : Option Nat := do
  let members ← value.record? (.plain ["offset"]) 1
  members.required? "offset" (Json.asNatural? offsetLimit)

/-- The offsets of a location. -/
def rangeOf? (value : Json) : Option (Nat × Nat) := do
  let members ← value.record? (.plain ["start", "end"]) 2
  return (← members.required? "start" offsetOf?, ← members.required? "end" offsetOf?)

/-- A message with a location. -/
def ofLocated? (value : Json) : Option Complaint := do
  let members ← value.record? (.plain ["message", "loc"]) 2
  let message ← members.required? "message" Json.asText?
  return ⟨message, ← members.optional? "loc" rangeOf?⟩

def ofJson? : Json → Option Complaint
  | .text message => some ⟨message, none⟩
  | value => (ofFlat? value).orElse fun _ => ofLocated? value

/-- All of a complaint has to be sound, since its shape is not known in advance. -/
instance : Json.Readable Complaint := ⟨.whole, ofJson?⟩

end Complaint

namespace ParsedComponent

def shape : Json.Shape := .record [("descriptor", Descriptor.shape), ("errors", .whole)]

def ofJson? (value : Json) : Option ParsedComponent := do
  let members ← value.record? shape 1
  return {
    descriptor := ← members.required? "descriptor" Descriptor.ofJson?
    errors := ← members.defaulted? "errors" [] (Json.asList? Complaint.ofJson?) }

instance : Json.Readable ParsedComponent := ⟨shape, ofJson?⟩

end ParsedComponent

namespace CompiledTemplate

def shape : Json.Shape := .plain ["code", "map", "errors", "tips"]

def ofJson? (value : Json) : Option CompiledTemplate := do
  let members ← value.record? shape 1
  let messages := Json.asList? Complaint.ofJson?
  return {
    code := ← members.required? "code" Json.asText?
    map := ← members.optional? "map" Json.passedOn
    errors := ← members.defaulted? "errors" [] messages
    tips := ← members.defaulted? "tips" [] messages }

instance : Json.Readable CompiledTemplate := ⟨shape, ofJson?⟩

end CompiledTemplate

namespace TranspiledScript

def shape : Json.Shape := .plain ["code", "map"]

def ofJson? (value : Json) : Option TranspiledScript := do
  let members ← value.record? shape 1
  return {
    code := ← members.required? "code" Json.asText?
    map := ← members.optional? "map" Json.passedOn }

instance : Json.Readable TranspiledScript := ⟨shape, ofJson?⟩

end TranspiledScript

def TemplateTask.toJson (request : TemplateTask) : Json :=
  .object ([("source", .text request.source), ("filename", .text request.filename),
      ("isFunctional", .bool request.isFunctional), ("isTs", .bool request.usesTypescript)] ++
    Json.member? "bindings" request.bindings)

def TranspilerTask.toJson (request : TranspilerTask) : Json :=
  .object [("filename", .text request.filename), ("code", .text request.code),
    ("options", request.options)]

/-- The parameters of parsing. -/
def parseParameters (source filename : String) : Json :=
  .object [("source", .text source), ("filename", .text filename)]

/-- The parameters of compiling scripts. -/
def scriptParameters (descriptor : Descriptor) (filename : String) : Json :=
  .object [("descriptor", descriptor.toJson), ("filename", .text filename)]

end ComponentCompiler
