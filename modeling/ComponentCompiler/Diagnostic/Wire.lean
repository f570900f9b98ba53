import ComponentCompiler.Diagnostic.Basic
import ComponentCompiler.Json.Record

/-!
# Diagnostics as JSON

The written forms of spans, severities, categories and diagnostics. Offsets have 32 bits, and a
span is read as it stands.
-/

namespace ComponentCompiler

namespace Span

def shape : Json.Shape := .plain ["file", "start", "end"]

def ofJson? (value : Json) : Option Span := do
  let members ← value.record? shape 3
  let number := Json.asNatural? (2 ^ 32)
  return {
    file := ← members.required? "file" number
    start := ← members.required? "start" number
    stop := ← members.required? "end" number }

instance : Json.Readable Span := ⟨shape, ofJson?⟩

def toJson (span : Span) : Json :=
  .object [("file", .integer span.file), ("start", .integer span.start),
    ("end", .integer span.stop)]

end Span

namespace Severity

def ofName? (name : String) : Option Severity :=
  [warning, error].find? fun severity => severity.name == name

def ofJson? (value : Json) : Option Severity := value.asName?.bind ofName?

instance : Json.Readable Severity := ⟨.whole, ofJson?⟩

end Severity

namespace Category

def ofName? (name : String) : Option Category :=
  all.find? fun category => category.name == name

def ofJson? (value : Json) : Option Category := value.asName?.bind ofName?

instance : Json.Readable Category := ⟨.whole, ofJson?⟩

end Category

namespace Diagnostic

def shape : Json.Shape :=
  .record [("category", .whole), ("message", .whole), ("span", Span.shape)]

def ofJson? (value : Json) : Option Diagnostic := do
  let members ← value.record? shape 3
  return {
    category := ← members.required? "category" Category.ofJson?
    message := ← members.required? "message" Json.asText?
    span := ← members.required? "span" Span.ofJson? }

instance : Json.Readable Diagnostic := ⟨shape, ofJson?⟩

def toJson (d : Diagnostic) : Json :=
  .object [("category", .text d.category.name), ("message", .text d.message),
    ("span", d.span.toJson)]

end Diagnostic
end ComponentCompiler
