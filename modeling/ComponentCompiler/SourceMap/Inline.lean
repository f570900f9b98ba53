import ComponentCompiler.SourceMap.Decode
import ComponentCompiler.SourceMap.Encode
import ComponentCompiler.Text.Blank

/-!
# Embedded maps

A map is embedded in its generated text as a comment on a line of its own. Of several such
comments the last one counts.
-/

namespace ComponentCompiler.SourceMap

/-- Why no embedded map can be read or a map cannot be passed on. -/
inductive InlineError where
  | map (error : MapError)
  | base64
  deriving DecidableEq, Repr

/-- What an embedded map starts with. -/
def commentStart : String := "//# sourceMappingURL=data:application/json;charset=utf-8;base64,"

/-- The comment that embeds a map. -/
def comment (map : SourceMap) : String :=
  commentStart ++ String.ofList (Text.Base64.encode map.text.toUTF8.toList)

/-- The encoded map in a line. -/
def encodedIn? (line : List Char) : Option (List Char) :=
  Text.after? commentStart.toList (Text.trim line)

/-- The map that a text embeds, if it embeds one. -/
def extract (code : String) : Except InlineError (Option SourceMap) :=
  match (Text.lines code.toList).reverse.findSome? encodedIn? with
  | none => .ok none
  | some encoded =>
    match Text.Base64.decode? encoded with
    | none => .error .base64
    | some bytes =>
      match ofBytes bytes with
      | .ok map => .ok (some map)
      | .error e => .error (.map e)

end ComponentCompiler.SourceMap
