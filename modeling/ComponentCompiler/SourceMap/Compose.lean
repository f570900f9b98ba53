import ComponentCompiler.SourceMap.Basic

/-!
# Maps of texts one below the other

A module is a script followed by a template. Its map is the script's map with the template's map
below it, moved down by the lines of the script. Sources and names of both are counted together;
where both embed a text for a source, the template's counts.
-/

namespace ComponentCompiler.SourceMap

/-- How many lines a script moves what follows it down. An empty script is left out. -/
def lineOffset (script : String) : UInt32 :=
  if script.toList.isEmpty then 0 else UInt32.ofNat (Text.newlines script.toList) + 1

/-- Adds the sources of a map with their texts; the result lists their new numbers. -/
def appendSources (target : SourceMap) : List (String × Option String) → List Nat × SourceMap
  | [] => ([], target)
  | (source, content) :: rest =>
    let (id, target) := target.internSource source
    let target := if content.isSome then target.setContent id content else target
    let (ids, target) := appendSources target rest
    (id :: ids, target)

/-- Adds names; the result lists their new numbers. -/
def appendNames (target : SourceMap) : List String → List Nat × SourceMap
  | [] => ([], target)
  | name :: rest =>
    let (id, target) := target.internName name
    let (ids, target) := appendNames target rest
    (id :: ids, target)

/-- A mapping moved down, with new numbers for its source and name. -/
def moved (offset : UInt32) (sourceIds nameIds : List Nat) (m : Mapping) : Mapping :=
  { m with
    line := m.line + offset
    source := m.source.bind (sourceIds[·]?)
    name := m.name.bind (nameIds[·]?)
    isRange := false }

/-- Adds everything of a map, a number of lines further down. -/
def append (target map : SourceMap) (offset : UInt32) : SourceMap :=
  let contents := (List.range map.sources.length).map map.contentAt
  let (sourceIds, target) := appendSources target (map.sources.zip contents)
  let (nameIds, target) := appendNames target map.names
  { target with mappings := target.mappings ++ map.mappings.map (moved offset sourceIds nameIds) }

/-- The map of a script with a template below it. -/
def compose (script template : Option SourceMap) (portion : String) : Option SourceMap :=
  match script, template with
  | script, none => script
  | none, some template =>
    if lineOffset portion = 0 then some template
    else some (append (empty template.file) template (lineOffset portion))
  | some script, some template =>
    let target := empty (script.file.orElse fun _ => template.file)
    some (append (append target script 0) template (lineOffset portion))

end ComponentCompiler.SourceMap
