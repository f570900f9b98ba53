import ComponentCompiler.Json.Record
import ComponentCompiler.Version

/-!
# Versions as JSON

The written form keeps the text beside the numbers, and reading does not compare them.
-/

namespace ComponentCompiler.Version

def shape : Json.Shape := .plain ["raw", "major", "minor", "patch"]

def ofJson? (value : Json) : Option Version := do
  let members ← value.record? shape 4
  let number := Json.asNatural? numberLimit
  return {
    raw := ← members.required? "raw" Json.asText?
    major := ← members.required? "major" number
    minor := ← members.required? "minor" number
    patch := ← members.required? "patch" number }

instance : Json.Readable Version := ⟨shape, ofJson?⟩

def toJson (v : Version) : Json :=
  .object [("raw", .text v.raw), ("major", .integer v.major), ("minor", .integer v.minor),
    ("patch", .integer v.patch)]

end ComponentCompiler.Version
