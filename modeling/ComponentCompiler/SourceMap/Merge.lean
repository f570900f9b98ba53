import ComponentCompiler.SourceMap.Basic

/-!
# Maps one after the other

A script is extracted from a component and then transpiled. The merged map traces the transpiled
text through the extracted script to the component: every mapping of the second step is traced
through the map of the first, and dropped if it leads nowhere.
-/

namespace ComponentCompiler.SourceMap

/-- Adds a source and, the first time, the text that either map embeds for it. -/
def mergeSource (component transpile target : SourceMap) (source : String) : Nat × SourceMap :=
  let (id, grown) := target.internSource source
  if target.rawSources.contains source then
    (id, grown)
  else
    (id, grown.setContent id
      ((component.contentOf source).orElse fun _ => transpile.contentOf source))

/-- Traces one mapping of the transpiled text and adds the result. -/
def mergeMapping (component transpile target : SourceMap) (m : Mapping) : SourceMap :=
  match transpile.sourceOf m, component.covering m.sourceLine m.sourceColumn with
  | some _, some traced =>
    match component.sourceOf traced with
    | none => target
    | some source =>
      let (id, target) := mergeSource component transpile target source
      let (nameId, target) := match component.nameOf traced with
        | none => (none, target)
        | some name =>
          let (id, target) := target.internName name
          (some id, target)
      target.addMapping ⟨m.line, m.column, traced.sourceLine,
        traced.columnAt m.sourceColumn, some id, nameId, false⟩
  | _, _ => target

/-- The map of a transpiled script, traced to the component. -/
def merge (component transpile : SourceMap) : SourceMap :=
  transpile.mappings.foldl (mergeMapping component transpile)
    (empty (transpile.file.orElse fun _ => component.file))

end ComponentCompiler.SourceMap
