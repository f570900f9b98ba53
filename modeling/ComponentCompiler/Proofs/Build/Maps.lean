import ComponentCompiler.Machine.Basic
import ComponentCompiler.Proofs.Build.Dependencies
import ComponentCompiler.Proofs.SourceMap.Order

/-!
# The map of a module

The map that is embedded in a module is composed from maps that were read from the answers of the
compiler and of the transpiler, or that were made for a script in a file of its own. The template
follows the script by as many lines as the script has, whatever lines the map of the script
mentions; so if the two disagree, the embedded map is not in order and cannot be written
(`order_of_module`).
-/

namespace ComponentCompiler

open SourceMap BuiltModule

/-- A map that a build starts from: it was read, or made for a script in a file of its own. -/
inductive Given : SourceMap → Prop
  | read {document : Json} {map : SourceMap} (h : ofJson document = .ok map) : Given map
  | identity (file content : String) : Given (SourceMap.identity file content)

namespace Builder

/-- A map that came with an answer was read. -/
theorem given_of_decodeMap {component : Path} {document : Option Json} {map : Option SourceMap}
    (h : decodeMap component document = .ok map) : ∀ m ∈ map, Given m := by
  intro m hm
  obtain rfl := Option.mem_def.mp hm
  cases document with
  | none => cases h
  | some document =>
    rw [decodeMap] at h
    cases hread : ofJson document with
    | error e =>
      rw [hread] at h
      cases h
    | ok map =>
      rw [hread] at h
      cases h
      exact .read hread

variable {σ : Type} [Journal (StateM σ)] {builder : Builder (StateM σ)} {source : String}
  {file : Path} {built : BuiltModule}

omit [Journal (StateM σ)] in
/-- Where a stage goes on with the map of an answer, that was read. -/
theorem given_of_yields {document : Option Json} {map : Option SourceMap}
    (h : Yields (ExceptT.mk (pure (decodeMap file document)) : ExceptT BuildError (StateM σ) _)
      map) : ∀ m ∈ map, Given m := by
  obtain ⟨s, s', h⟩ := h
  cases hdecoded : decodeMap file document with
  | error e =>
    rw [hdecoded] at h
    cases h
  | ok found =>
    rw [hdecoded] at h
    cases h
    exact given_of_decodeMap hdecoded

/-- The map of a script is brought together from given maps. -/
theorem map_of_finishScript {text : BlockText} {code : String} {componentMap : Option SourceMap}
    {result : String × Option SourceMap}
    (h : Yields (builder.finishScript file text code componentMap) result)
    (hcomponent : ∀ m ∈ componentMap, Given m) :
    ∃ component transpile, (∀ m ∈ component, Given m) ∧ (∀ m ∈ transpile, Given m) ∧
      result.2 = ScriptPart.mergedMap component transpile := by
  unfold finishScript at h
  split at h
  · obtain ⟨-, -, h⟩ := yields_bind h
    obtain rfl := yields_pure h
    refine ⟨ScriptPart.mapAsRead text componentMap, none, ?_, by rintro _ ⟨⟩, ?_⟩
    · rw [ScriptPart.mapAsRead]
      cases text.external with
      | none => exact hcomponent
      | some path =>
        rintro _ ⟨⟩
        exact .identity _ _
    · cases ScriptPart.mapAsRead text componentMap <;> rfl
  · obtain ⟨-, -, h⟩ := yields_bind h
    obtain ⟨output, -, h⟩ := yields_bind h
    obtain ⟨transpileMap, htranspile, h⟩ := yields_bind h
    obtain rfl := yields_pure h
    exact ⟨componentMap, transpileMap, hcomponent, given_of_yields htranspile, rfl⟩

theorem map_of_compileTemplate {descriptor : Descriptor} {bindings : Option Json}
    {functional : Bool} {sources : SourceSet} {text : BlockText} {template : TemplatePart}
    (h : Yields (builder.compileTemplate file descriptor bindings functional sources text)
      template) : ∀ m ∈ template.map, Given m := by
  obtain ⟨-, -, h⟩ := yields_bind h
  obtain ⟨output, -, h⟩ := yields_bind h
  obtain ⟨-, -, h⟩ := yields_bind h
  obtain ⟨-, -, h⟩ := yields_bind h
  obtain ⟨map, hmap, h⟩ := yields_bind h
  obtain rfl := yields_pure h
  exact given_of_yields hmap

variable [Files (StateM σ)]

theorem map_of_scriptPart {descriptor : Descriptor} {compiled : Option CompiledScript}
    {script : ScriptPart} (h : Yields (builder.scriptPart file descriptor compiled) script) :
    ∃ component transpile, (∀ m ∈ component, Given m) ∧ (∀ m ∈ transpile, Given m) ∧
      script.map = ScriptPart.mergedMap component transpile := by
  cases compiled with
  | none =>
    obtain rfl := yields_pure h
    exact ⟨none, none, by rintro _ ⟨⟩, by rintro _ ⟨⟩, rfl⟩
  | some compiled =>
    obtain ⟨text, -, h⟩ := yields_bind h
    obtain ⟨componentMap, hcomponent, h⟩ := yields_bind h
    obtain ⟨⟨code, map⟩, hfinished, h⟩ := yields_bind h
    obtain ⟨-, -, h⟩ := yields_bind h
    obtain rfl := yields_pure h
    exact map_of_finishScript hfinished (given_of_yields hcomponent)

theorem map_of_templatePart {descriptor : Descriptor} {bindings : Option Json}
    {script : ScriptPart} {sources : SourceSet} {template : TemplatePart}
    (h : Yields (builder.templatePart file descriptor bindings script sources) template) :
    ∀ m ∈ template.map, Given m := by
  obtain ⟨-, -, h⟩ := yields_bind h
  split at h
  · obtain rfl := yields_pure h
    rintro _ ⟨⟩
  · split at h
    · obtain rfl := yields_pure h
      rintro _ ⟨⟩
    · obtain ⟨text, -, h⟩ := yields_bind h
      exact map_of_compileTemplate h

/-- The map of every module is composed from given maps. If these are in order, it is in order
exactly if no mapping of the script lies below one of the template, which follows the text of the
script, and no two lines of the template are moved past each other. -/
theorem order_of_module (h : Yields (builder.build source file) built) :
    ∃ component transpile template portion code,
      (∀ m ∈ component, Given m) ∧ (∀ m ∈ transpile, Given m) ∧ (∀ m ∈ template, Given m) ∧
      built.code = withMap (body portion code)
        (compose (ScriptPart.mergedMap component transpile) template portion) ∧
      ((∀ m ∈ component, m.isOrdered) → (∀ m ∈ transpile, m.isOrdered) →
        (∀ m ∈ template, m.isOrdered) →
          ∀ map ∈ compose (ScriptPart.mergedMap component transpile) template portion,
            (map.isOrdered ↔ LinedUp (linesOf (ScriptPart.mergedMap component transpile))
              (linesOf template) (lineOffset portion))) := by
  obtain ⟨descriptor, compiled, script, template, -, -, hscript, htemplate, hcode, -⟩ :=
    yields_build h
  obtain ⟨component, transpile, hcomponent, htranspile, hmap⟩ := map_of_scriptPart hscript
  rw [assemble, hmap] at hcode
  refine ⟨component, transpile, template.map, script.code, template.code, hcomponent, htranspile,
    map_of_templatePart htemplate, hcode, fun hcomponent htranspile htemplate map hmap => ?_⟩
  exact isOrdered_compose_iff (isOrdered_mergedMap hcomponent htranspile) htemplate hmap

/-- A map of one source from its mappings, as a document. -/
def document (mappings : String) : Json :=
  .object [("version", .integer 3), ("sources", .array [.text "App.vue"]), ("names", .array []),
    ("mappings", .text mappings)]

/-- A compiler whose maps of scripts mention the first and the third line. -/
def mapped (script : String) : Builder (StateM Machine) where
  compiler := {
    version := "3.4.21"
    parse _ _ := return .ok { descriptor := { template := some { kind := .template } } }
    compileScript _ _ := return .ok (some { content := script, map := document "AAAA;;AACA" })
    compileTemplate _ := return .ok { code := "t()", map := document "AAAA" } }
  version := ⟨"3.4.21", 3, 4, 21⟩
  variant := .modern
  deliver := Record.announce

/-- A script of three lines above a template. -/
theorem order_of_module_of_three_lines :
    ∃ built, Yields ((mapped "a\nb\nc").build "" ⟨"App.vue"⟩) built ∧
      ∃ component transpile template portion code,
        built.code = withMap (body portion code)
          (compose (ScriptPart.mergedMap component transpile) template portion) ∧
        ((∀ m ∈ component, m.isOrdered) → (∀ m ∈ transpile, m.isOrdered) →
          (∀ m ∈ template, m.isOrdered) →
            ∀ map ∈ compose (ScriptPart.mergedMap component transpile) template portion,
              (map.isOrdered ↔ LinedUp (linesOf (ScriptPart.mergedMap component transpile))
                (linesOf template) (lineOffset portion))) := by
  have hbuilt :
      (Host.run default ((mapped "a\nb\nc").build "" ⟨"App.vue"⟩).run).1.toOption.isSome := by
    decide +kernel
  obtain ⟨built, hresult⟩ := Option.isSome_iff_exists.mp hbuilt
  have hyields := yields_of_toOption hresult
  obtain ⟨component, transpile, template, portion, code, -, -, -, hcode, hordered⟩ :=
    order_of_module hyields
  exact ⟨built, hyields, component, transpile, template, portion, code, hcode, hordered⟩

/-- The map of a script, which mentions its third line. -/
def lowScript : SourceMap where
  rawSources := ["App.vue"]
  mappings := [⟨0, 0, 0, 0, some 0, none, false⟩, ⟨2, 0, 1, 0, some 0, none, false⟩]

/-- The map of a template of one line. -/
def oneLine : SourceMap where
  rawSources := ["App.vue"]
  mappings := [⟨0, 0, 0, 0, some 0, none, false⟩]

/-- A script of one line, whose map mentions a third one, above a template: both maps are read, and
the lines of the map that is embedded decrease. -/
theorem not_isOrdered_of_lower_script :
    ofJson (document "AAAA;;AACA") = .ok lowScript ∧ ofJson (document "AAAA") = .ok oneLine ∧
      ∃ built code map, Yields ((mapped "a").build "" ⟨"App.vue"⟩) built ∧
        compose (some lowScript) (some oneLine) "a" = some map ∧
        built.code = withMap (body "a" code) (some map) ∧ ¬map.isOrdered := by
  have hcode : (Host.run default ((mapped "a").build "" ⟨"App.vue"⟩).run).1.toOption.map
      BuiltModule.code = some (withMap (body "a" (TemplatePart.connected "t()" .dynamic false))
        (compose (some lowScript) (some oneLine) "a")) := by
    decide +kernel
  obtain ⟨built, hresult, hcode⟩ := Option.map_eq_some_iff.mp hcode
  refine ⟨by rfl, by rfl, built, _, _, yields_of_toOption hresult, rfl, hcode, ?_⟩
  decide

end Builder
end ComponentCompiler
